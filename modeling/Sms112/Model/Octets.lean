import Mathlib.Algebra.Group.Int.Defs
import Mathlib.Algebra.Group.Nat.Defs
import Mathlib.Data.List.Induction
import Mathlib.Data.List.TakeWhile

/-!
# Octets, words and C strings

Buffers are lists of octets. A word is a 32-bit number in network order, as
`ntohl` reads it from a PDU header; a C string is what its consumers read of a
memory area, up to the first zero octet.
-/

namespace Sms112

abbrev Octets := List UInt8

/-- The octets of a string literal of the source. -/
def ascii (text : String) : Octets :=
  text.toUTF8.data.toList

/-- The number written by octets in network order. -/
def bigEndian (octets : Octets) : Nat :=
  octets.foldl (fun value octet => value * 256 + octet.toNat) 0

/-- The 32-bit word at an offset of a buffer, in host order. -/
def word (buffer : Octets) (offset : Nat) : Nat :=
  bigEndian ((buffer.drop offset).take 4)

/-- The four octets of a word in network order. -/
def wordOctets (value : Nat) : Octets :=
  [UInt8.ofNat (value / 16777216), UInt8.ofNat (value / 65536),
    UInt8.ofNat (value / 256), UInt8.ofNat value]

@[simp] theorem length_wordOctets (value : Nat) :
    (wordOctets value).length = 4 := rfl

/-- A big-endian number of so many octets is below that power of 256. -/
theorem bigEndian_lt (octets : Octets) :
    bigEndian octets < 256 ^ octets.length := by
  induction octets using List.reverseRecOn with
  | nil => simp [bigEndian]
  | append_singleton octets octet inductionHypothesis =>
      have octetBound := octet.toNat_lt
      simp only [bigEndian, List.foldl_append, List.foldl_cons,
        List.foldl_nil, List.length_append, List.length_cons,
        List.length_nil, Nat.pow_succ] at inductionHypothesis ⊢
      omega

theorem word_lt (buffer : Octets) (offset : Nat) :
    word buffer offset < 2 ^ 32 := by
  have bound := bigEndian_lt ((buffer.drop offset).take 4)
  have atMostFour : ((buffer.drop offset).take 4).length ≤ 4 :=
    List.length_take_le 4 _
  calc word buffer offset
      < 256 ^ ((buffer.drop offset).take 4).length := bound
    _ ≤ 256 ^ 4 := Nat.pow_le_pow_right (by omega) atMostFour
    _ = 2 ^ 32 := rfl

/-- A word depends only on the octets it is read from. -/
theorem word_take
    {buffer : Octets}
    {offset count : Nat}
    (inside : offset + 4 ≤ count) :
    word (buffer.take count) offset = word buffer offset := by
  unfold word
  rw [List.drop_take, List.take_take, Nat.min_eq_left (by omega)]

/-- A word inside the buffer is read the same with more octets behind it. -/
theorem word_append
    {buffer rest : Octets}
    {offset : Nat}
    (inside : offset + 4 ≤ buffer.length) :
    word (buffer ++ rest) offset = word buffer offset := by
  rw [← word_take inside, List.take_left]

/-- What a consumer of a C string reads of a memory area. -/
def cString (memory : Octets) : Octets :=
  memory.takeWhile (· ≠ 0)

/-- An octet string is its own C string when no octet of it is zero. -/
theorem cString_eq_self_iff (memory : Octets) :
    cString memory = memory ↔ 0 ∉ memory := by
  unfold cString
  rw [List.takeWhile_eq_self_iff]
  constructor
  · intro nonzero member
    simpa using nonzero 0 member
  · intro absent octet member
    have different : octet ≠ 0 := fun equal => absent (equal ▸ member)
    simpa using different

/-- A terminating zero octet is not part of the string read. -/
theorem cString_append_zero (text rest : Octets) :
    cString (text ++ 0 :: rest) = cString text := by
  unfold cString
  induction text with
  | nil => simp
  | cons octet text inductionHypothesis =>
      simp only [List.cons_append, List.takeWhile_cons,
        inductionHypothesis]

/-- Conversion of an unsigned value to a 32-bit `int`. -/
def int32 (value : Nat) : Int :=
  Int.bmod value (2 ^ 32)

theorem int32_of_lt {value : Nat} (small : value < 2 ^ 31) :
    int32 value = value := by
  unfold int32
  rw [Int.bmod_def]
  omega

/-- From 2^31 on, a word read as a signed number is negative. -/
theorem int32_toNat_of_le
    {value : Nat}
    (small : value < 2 ^ 32)
    (large : 2 ^ 31 ≤ value) :
    (int32 value).toNat = 0 := by
  unfold int32
  rw [Int.bmod_def]
  omega

/-- Comparison of an `int` with a `uint32_t`: the `int` is converted first. -/
def equalsUnsigned (result : Int) (size : Nat) : Bool :=
  result % 2 ^ 32 = size

/-- A count that is not negative compares with an unsigned size as a number
does. -/
theorem equalsUnsigned_natCast
    {count size : Nat}
    (small : count < 2 ^ 32) :
    equalsUnsigned count size = decide (count = size) := by
  unfold equalsUnsigned
  have cast : (count : Int) % 2 ^ 32 = count := by omega
  rw [cast, decide_eq_decide]
  omega

end Sms112
