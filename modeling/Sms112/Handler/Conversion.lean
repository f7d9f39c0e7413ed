import Sms112.Handler.Memory

/-!
# The conversion of a message

What the text buffer holds after the switch on the data coding. In coding 8
this is the output of `iconv`, if the conversion reports success; in coding 0
it is a prefix of the selected body whose length is `sm_length`.
-/

namespace Sms112

open Resumption

variable (thread : Thread)

/-- The codings a message is converted from. -/
def SupportedCoding (req : Unpacked) : Prop :=
  req.dataCoding = 8 ∨ req.dataCoding = 0

instance (req : Unpacked) : Decidable (SupportedCoding req) := by
  unfold SupportedCoding
  infer_instance

/-- The conversion from UCS-2 reports success: it is opened, it does not fail,
it converts nothing irreversibly and leaves no input. -/
def IconvSucceeds (oracle : Op → Choice) (srcStr : Octets)
    (srcLen : Nat) : Prop :=
  let converted :=
    oracle (.iconv (srcStr.take srcLen) (srcLen * 4 % 2 ^ 64))
  (oracle (.iconvOpen (ascii "UTF-8") (ascii "UCS-2BE"))).ret = 0 ∧
    converted.ret = 0 ∧ min converted.count (srcStr.take srcLen).length = 0

/-- The output of the conversion from UCS-2. -/
def iconvOutput (oracle : Op → Choice) (srcStr : Octets)
    (srcLen : Nat) : Octets :=
  (oracle (.iconv (srcStr.take srcLen) (srcLen * 4 % 2 ^ 64))).data.take
    (srcLen * 4 % 2 ^ 64)

/-- The output buffer holds the converted text, and the destination says how
long it is. -/
theorem smsIconv_eval
    {oracle : Op → Choice}
    {srcStr : Octets}
    {srcLen : Nat}
    (succeeds : IconvSucceeds oracle srcStr srcLen)
    (destination : Destination)
    (state : State) :
    let output := iconvOutput oracle srcStr srcLen
    ∃ later rest,
      (smsIconv (ascii "UCS-2BE") (ascii "UTF-8") srcStr srcLen destination
          false false).eval (exec thread) oracle state =
        ((0, ⟨some state.nextBlock, output.length⟩), later) ∧
      later.block state.nextBlock = output ++ rest := by
  intro output
  obtain ⟨opens, ret, inBufLeft⟩ := succeeds
  have room : output.length ≤ srcLen * 4 % 2 ^ 64 :=
    List.length_take_le _ _
  unfold smsIconv
  simp only [Program.eval_bind, Program.eval_call, exec, opens,
    Program.eval_ite, decide_true, Bool.not_true, Bool.false_eq_true,
    if_false, ret, inBufLeft]
  generalize fit_eq : fit (srcLen * 4 % 2 ^ 64)
    (oracle (.newChars (srcLen * 4 % 2 ^ 64))).data = buffer
  have buffer_length : buffer.length = srcLen * 4 % 2 ^ 64 := by
    rw [← fit_eq, length_fit]
  refine ⟨_, buffer.drop output.length, rfl, ?_⟩
  have written := State.block_writeChars (state.allocate buffer).2
    (state.allocate buffer).1 0 output
    (by rw [State.block_allocate]; omega)
  exact written.trans (by simp)

/-- In coding 8 a consumer reads the output of the conversion. -/
theorem convertText_ucs2
    {oracle : Op → Choice}
    {req : Unpacked}
    {srcStr : Octets}
    {srcLen : Nat}
    (coding : req.dataCoding = 8)
    (succeeds : IconvSucceeds oracle srcStr srcLen)
    (dstLen : Nat)
    (state : State) :
    ∃ address later,
      (convertText req srcStr srcLen dstLen).eval (exec thread) oracle
        state = (some (some address), later) ∧
      cString (later.block address) =
        cString (iconvOutput oracle srcStr srcLen) := by
  obtain ⟨later, rest, evaluated, block⟩ :=
    smsIconv_eval thread succeeds ⟨none, dstLen⟩ state
  unfold convertText
  rw [if_pos coding, Program.eval_bind_of_eq _ _ evaluated]
  refine ⟨state.nextBlock, later.writeChars state.nextBlock
    (iconvOutput oracle srcStr srcLen).length [0], rfl, ?_⟩
  cases rest with
  | nil =>
      -- the output fills the buffer and leaves no room for the zero octet
      have outside : ¬(iconvOutput oracle srcStr srcLen).length +
          ([0] : Octets).length ≤ (later.block state.nextBlock).length := by
        simp [block]
      rw [State.writeChars, if_neg outside]
      exact congrArg cString (block.trans (List.append_nil _))
  | cons octet rest =>
      rw [State.block_writeChars _ _ _ _ (by
          rw [block, List.length_append, List.length_cons]
          simp),
        block, List.take_left, List.append_assoc, List.singleton_append,
        cString_append_zero]

/-- In coding 0 the text buffer holds `sm_length` octets of the source and a
terminating zero octet. -/
theorem convertText_gsm
    (oracle : Op → Choice)
    {req : Unpacked}
    {srcStr : Octets}
    (coding : req.dataCoding = 0)
    (fits : req.smLength ≤ srcStr.length)
    (srcLen dstLen : Nat)
    (state : State) :
    ∃ address later,
      (convertText req srcStr srcLen dstLen).eval (exec thread) oracle
        state = (some (some address), later) ∧
      cString (later.block address) =
        cString (srcStr.take req.smLength) := by
  have other : req.dataCoding ≠ 8 := by omega
  have taken : (srcStr.take req.smLength).length = req.smLength := by
    rw [List.length_take, Nat.min_eq_left fits]
  generalize buffer_eq : fit (req.smLength + 1)
    (oracle (.newChars (req.smLength + 1))).data = buffer
  have buffer_length : buffer.length = req.smLength + 1 := by
    rw [← buffer_eq, length_fit]
  have copied := State.block_writeChars (state.allocate buffer).2
    (state.allocate buffer).1 0 (srcStr.take req.smLength)
    (by rw [State.block_allocate]; omega)
  rw [State.block_allocate, List.take_zero, List.nil_append,
    Nat.zero_add, taken] at copied
  unfold convertText
  rw [if_neg other, if_pos coding]
  simp only [Program.eval_bind, Program.eval_call, exec, buffer_eq]
  refine ⟨(state.allocate buffer).1, _, rfl, ?_⟩
  rw [State.block_writeChars _ _ _ _ (by
      rw [copied, List.length_append, taken, List.length_drop,
        List.length_singleton]
      omega),
    copied, List.take_left' taken, List.append_assoc, List.singleton_append,
    cString_append_zero]

/-- `sm_length` is within the body selected. -/
theorem smLength_le_selectBody (req : Unpacked) (garbage : Garbage) :
    req.smLength ≤ (selectBody req garbage).1.length := by
  by_cases empty : req.smLength = 0
  · simp [empty]
  · simp [selectBody, empty, req.smLength_le]

/-- Nothing is done in a coding that is not supported. -/
theorem convertText_unsupported
    {req : Unpacked}
    (unsupported : ¬SupportedCoding req)
    (srcStr : Octets)
    (srcLen dstLen : Nat) :
    convertText req srcStr srcLen dstLen = .ret none := by
  have ⟨ucs2, gsm⟩ := not_or.mp unsupported
  unfold convertText
  rw [if_neg ucs2, if_neg gsm]
  rfl

/-- The text pointer is set exactly for the supported codings. -/
theorem convertText_isSome_iff
    (oracle : Op → Choice)
    (req : Unpacked)
    (srcStr : Octets)
    (srcLen dstLen : Nat)
    (state : State) :
    ((convertText req srcStr srcLen dstLen).eval (exec thread) oracle
      state).1.isSome ↔ SupportedCoding req := by
  unfold convertText SupportedCoding
  by_cases ucs2 : req.dataCoding = 8
  · rw [if_pos ucs2, Program.eval_bind]
    simp only [ucs2, true_or, iff_true]
    split
    · split <;> rfl
    · rfl
  · by_cases gsm : req.dataCoding = 0
    · rw [if_neg ucs2, if_pos gsm]
      simp only [Program.eval_bind]
      simp [gsm]
    · rw [if_neg ucs2, if_neg gsm]
      simp [ucs2, gsm]

/-! ## The operations of a conversion -/

/-- The operations on the text buffer and the calls of `iconv`. -/
def Op.isConversion : Op → Bool
  | .newChars _ | .writeChars .. | .iconvOpen .. | .iconv .. => true
  | _ => false

theorem Op.isConversion.isMemory
    (operation : Op)
    (conversion : operation.isConversion) :
    operation.isMemory := by
  cases operation <;> first | rfl | exact nomatch conversion

theorem smsIconv_conversion (srcCod dstCod srcStr : Octets) (srcLen : Nat)
    (destination : Destination) (incomplete nonreversible : Bool) :
    (smsIconv srcCod dstCod srcStr srcLen destination incomplete
      nonreversible).Uses fun operation => operation.isConversion := by
  refine .step rfl fun outBuf => .step rfl fun opened => ?_
  split
  · trivial
  · refine .step rfl fun converted => .step rfl fun _ => ?_
    split
    · trivial
    · dsimp only
      split
      · trivial
      · split <;> trivial

theorem convertText_conversion (req : Unpacked) (srcStr : Octets)
    (srcLen dstLen : Nat) :
    (convertText req srcStr srcLen dstLen).Uses
      fun operation => operation.isConversion := by
  unfold convertText
  split
  · refine (smsIconv_conversion _ _ _ _ _ _ _).bind fun outcome => ?_
    obtain ⟨iFnRes, destination⟩ := outcome
    dsimp only
    split
    · cases destination.dstStr with
      | none => trivial
      | some printData => exact .step rfl fun _ => trivial
    · trivial
  · split
    · exact .step rfl fun printData => .step rfl fun _ => .step rfl
        fun _ => trivial
    · trivial

theorem convertText_memory (req : Unpacked) (srcStr : Octets)
    (srcLen dstLen : Nat) :
    (convertText req srcStr srcLen dstLen).Uses
      fun operation => operation.isMemory :=
  (convertText_conversion req srcStr srcLen dstLen).mono
    Op.isConversion.isMemory

end Sms112
