import Sms112.Handler.Trace

/-!
# The buffer of a text

The text buffer is allocated in one function and terminated in another, at an
index that the conversion returns. Its steps are listed here for every outcome
of `iconv`, and with them the messages whose text is a string inside its
allocation.
-/

namespace Sms112

open Resumption

variable (thread : Thread) (oracle : Op → Choice)

/-! ## The steps of the conversion -/

/-- The output buffer before the conversion. -/
def iconvBuffer (srcLen : Nat) : Octets :=
  fit (srcLen * 4 % 2 ^ 64)
    (oracle (.newChars (srcLen * 4 % 2 ^ 64))).data

/-- The conversion from UCS-2 can be opened. -/
def IconvOpens : Prop :=
  (oracle (.iconvOpen (ascii "UTF-8") (ascii "UCS-2BE"))).ret = 0

/-- The buffer is handed to the caller: the conversion is opened and does not
fail. -/
def IconvPublishes (srcStr : Octets) (srcLen : Nat) : Prop :=
  IconvOpens oracle ∧
    0 ≤ (oracle (.iconv (srcStr.take srcLen) (srcLen * 4 % 2 ^ 64))).ret

instance : Decidable (IconvOpens oracle) :=
  inferInstanceAs (Decidable (_ = _))

instance (srcStr : Octets) (srcLen : Nat) :
    Decidable (IconvSucceeds oracle srcStr srcLen) :=
  inferInstanceAs (Decidable (_ ∧ _ ∧ _))

instance (srcStr : Octets) (srcLen : Nat) :
    Decidable (IconvPublishes oracle srcStr srcLen) :=
  inferInstanceAs (Decidable (_ ∧ _))

theorem IconvSucceeds.publishes
    {oracle : Op → Choice}
    {srcStr : Octets}
    {srcLen : Nat}
    (succeeds : IconvSucceeds oracle srcStr srcLen) :
    IconvPublishes oracle srcStr srcLen :=
  ⟨succeeds.1, Int.le_of_eq succeeds.2.1.symm⟩

section Conversion

variable (srcStr : Octets) (srcLen : Nat) (destination : Destination)
variable (state : State)

/-- The state once the output buffer is allocated. -/
def iconvFilled : State :=
  (state.allocate (iconvBuffer oracle srcLen)).2

/-- The state once the output is written. -/
def iconvWritten : State :=
  (iconvFilled oracle srcLen state).writeChars state.nextBlock 0
    (iconvOutput oracle srcStr srcLen)

theorem smsIconv_closed (closed : ¬IconvOpens oracle) :
    let filled := iconvFilled oracle srcLen state
    let program := smsIconv (ascii "UCS-2BE") (ascii "UTF-8") srcStr srcLen
      destination false false
    program.eval (exec thread) oracle state = ((-1, destination), filled) ∧
      program.trace (exec thread) oracle state =
        [(.newChars (srcLen * 4 % 2 ^ 64), state),
          (.iconvOpen (ascii "UTF-8") (ascii "UCS-2BE"), filled)] := by
  intro filled program
  have allocated : (call (.newChars (srcLen * 4 % 2 ^ 64))).eval
      (exec thread) oracle state = (state.nextBlock, filled) := rfl
  have unopened : (call (.iconvOpen (ascii "UTF-8") (ascii "UCS-2BE"))).eval
      (exec thread) oracle filled = (false, filled) :=
    Prod.ext (decide_eq_false closed) rfl
  unfold program smsIconv
  constructor
  · rw [Program.eval_bind_of_eq _ _ allocated,
      Program.eval_bind_of_eq _ _ unopened]
    rfl
  · rw [Program.trace_bind_of_eq _ _ allocated,
      Program.trace_bind_of_eq _ _ unopened]
    rfl

theorem smsIconv_opened (opens : IconvOpens oracle) :
    let filled := iconvFilled oracle srcLen state
    let output := iconvOutput oracle srcStr srcLen
    let program := smsIconv (ascii "UCS-2BE") (ascii "UTF-8") srcStr srcLen
      destination false false
    program.eval (exec thread) oracle state =
        ((if IconvSucceeds oracle srcStr srcLen then 0 else -1,
          if IconvPublishes oracle srcStr srcLen then
            ⟨some state.nextBlock, output.length⟩
          else destination),
          iconvWritten oracle srcStr srcLen state) ∧
      program.trace (exec thread) oracle state =
        [(.newChars (srcLen * 4 % 2 ^ 64), state),
          (.iconvOpen (ascii "UTF-8") (ascii "UCS-2BE"), filled),
          (.iconv (srcStr.take srcLen) (srcLen * 4 % 2 ^ 64), filled),
          (.writeChars state.nextBlock 0 output, filled)] := by
  intro filled output program
  have allocated : (call (.newChars (srcLen * 4 % 2 ^ 64))).eval
      (exec thread) oracle state = (state.nextBlock, filled) := rfl
  have opened : (call (.iconvOpen (ascii "UTF-8") (ascii "UCS-2BE"))).eval
      (exec thread) oracle filled = (true, filled) :=
    Prod.ext (decide_eq_true opens) rfl
  let choice :=
    oracle (.iconv (srcStr.take srcLen) (srcLen * 4 % 2 ^ 64))
  have converted : (call (.iconv (srcStr.take srcLen)
      (srcLen * 4 % 2 ^ 64))).eval (exec thread) oracle filled =
        (⟨if choice.ret < 0 then -1 else choice.ret,
          min choice.count (srcStr.take srcLen).length, output⟩, filled) :=
    rfl
  have written : (call (.writeChars state.nextBlock 0 output)).eval
      (exec thread) oracle filled =
        ((), iconvWritten oracle srcStr srcLen state) := rfl
  have succeeds : IconvSucceeds oracle srcStr srcLen ↔ choice.ret = 0 ∧
      min choice.count (srcStr.take srcLen).length = 0 :=
    and_iff_right opens
  have publishes : IconvPublishes oracle srcStr srcLen ↔ 0 ≤ choice.ret :=
    and_iff_right opens
  unfold program smsIconv
  constructor
  · rw [Program.eval_bind_of_eq _ _ allocated,
      Program.eval_bind_of_eq _ _ opened, if_neg (by decide),
      Program.eval_bind_of_eq _ _ converted,
      Program.eval_bind_of_eq _ _ written]
    simp only [succeeds, publishes]
    generalize min choice.count (srcStr.take srcLen).length = inBufLeft
    by_cases failed : choice.ret < 0
    · have nonzero : choice.ret ≠ 0 := by omega
      have negative : ¬0 ≤ choice.ret := by omega
      simp only [failed, negative, nonzero, false_and, if_true, if_false]
      rfl
    · have code : choice.ret ≠ -1 := by omega
      have positive : 0 ≤ choice.ret := by omega
      simp only [failed, code, positive, if_true, if_false]
      by_cases left : inBufLeft = 0
      · by_cases zero : choice.ret = 0 <;> simp [left, zero]
      · simp [left]
  · rw [Program.trace_bind_of_eq _ _ allocated,
      Program.trace_bind_of_eq _ _ opened, if_neg (by decide),
      Program.trace_bind_of_eq _ _ converted,
      Program.trace_bind_of_eq _ _ written]
    simp only [Program.pure_eq_ret, Program.trace_ite, Program.trace_ret,
      ite_self]
    rfl

theorem iconvFilled_block :
    (iconvFilled oracle srcLen state).block state.nextBlock =
      iconvBuffer oracle srcLen :=
  state.block_allocate (iconvBuffer oracle srcLen)

/-- The output is written inside the buffer. -/
theorem iconvOutput_inside :
    0 + (iconvOutput oracle srcStr srcLen).length ≤
      ((iconvFilled oracle srcLen state).block state.nextBlock).length := by
  rw [iconvFilled_block, iconvBuffer, length_fit, Nat.zero_add]
  exact List.length_take_le _ _

/-- The buffer holds the output and, behind it, what it held before. -/
theorem iconvWritten_block :
    (iconvWritten oracle srcStr srcLen state).block state.nextBlock =
      iconvOutput oracle srcStr srcLen ++
        (iconvBuffer oracle srcLen).drop
          (iconvOutput oracle srcStr srcLen).length := by
  have written := State.block_writeChars _ _ _ _
    (iconvOutput_inside oracle srcStr srcLen state)
  rwa [iconvFilled_block, List.take_zero, List.nil_append, Nat.zero_add]
    at written

theorem iconvWritten_length :
    ((iconvWritten oracle srcStr srcLen state).block
      state.nextBlock).length = srcLen * 4 % 2 ^ 64 := by
  have inside := iconvOutput_inside oracle srcStr srcLen state
  rw [iconvFilled_block] at inside
  have size : (iconvBuffer oracle srcLen).length = srcLen * 4 % 2 ^ 64 :=
    length_fit _ _
  rw [iconvWritten_block, List.length_append, List.length_drop]
  omega

end Conversion

section Text

variable {req : Unpacked} {srcStr : Octets} {srcLen dstLen : Nat}
variable {state later : State} {destination : Destination}

/-- A conversion that does not report success ends the switch. -/
theorem convertText_unterminated
    {code : Int}
    (coding : req.dataCoding = 8)
    (converted : (smsIconv (ascii "UCS-2BE") (ascii "UTF-8") srcStr srcLen
      ⟨none, dstLen⟩ false false).eval (exec thread) oracle state =
        ((code, destination), later))
    (failed : code ≠ 0) :
    let program := convertText req srcStr srcLen dstLen
    program.eval (exec thread) oracle state =
        (some destination.dstStr, later) ∧
      program.trace (exec thread) oracle state =
        (smsIconv (ascii "UCS-2BE") (ascii "UTF-8") srcStr srcLen
          ⟨none, dstLen⟩ false false).trace (exec thread) oracle state := by
  unfold convertText
  dsimp only
  rw [if_pos coding, Program.eval_bind_of_eq _ _ converted,
    Program.trace_bind_of_eq _ _ converted]
  dsimp only
  rw [if_neg failed]
  exact ⟨rfl, List.append_nil _⟩

/-- After a conversion that reports success the text is terminated. -/
theorem convertText_terminated
    {address length : Nat}
    (coding : req.dataCoding = 8)
    (converted : (smsIconv (ascii "UCS-2BE") (ascii "UTF-8") srcStr srcLen
      ⟨none, dstLen⟩ false false).eval (exec thread) oracle state =
        ((0, ⟨some address, length⟩), later)) :
    let program := convertText req srcStr srcLen dstLen
    program.eval (exec thread) oracle state =
        (some (some address), later.writeChars address length [0]) ∧
      program.trace (exec thread) oracle state =
        (smsIconv (ascii "UCS-2BE") (ascii "UTF-8") srcStr srcLen
          ⟨none, dstLen⟩ false false).trace (exec thread) oracle state ++
            [(.writeChars address length [0], later)] := by
  unfold convertText
  dsimp only
  rw [if_pos coding, Program.eval_bind_of_eq _ _ converted,
    Program.trace_bind_of_eq _ _ converted]
  exact ⟨rfl, rfl⟩

/-- In coding 0 a block of `sm_length` octets and one is filled. -/
theorem convertText_copied (coding : req.dataCoding = 0) :
    let program := convertText req srcStr srcLen dstLen
    let text := srcStr.take req.smLength
    let filled := (state.allocate (fit (req.smLength + 1)
      (oracle (.newChars (req.smLength + 1))).data)).2
    let copied := filled.writeChars state.nextBlock 0 text
    program.eval (exec thread) oracle state = (some (some state.nextBlock),
        copied.writeChars state.nextBlock req.smLength [0]) ∧
      program.trace (exec thread) oracle state =
        [(.newChars (req.smLength + 1), state),
          (.writeChars state.nextBlock 0 text, filled),
          (.writeChars state.nextBlock req.smLength [0], copied)] := by
  have other : req.dataCoding ≠ 8 := by omega
  unfold convertText
  dsimp only
  rw [if_neg other, if_pos coding]
  exact ⟨rfl, rfl⟩

end Text

/-! ## Writes and strings inside their allocations -/

/-- A write is inside its allocation, and what is read as a string ends inside
its allocation. -/
def Op.inBounds (state : State) : Op → Bool
  | .writeChars address offset data =>
      offset + data.length ≤ (state.block address).length
  | .readChars address => 0 ∈ state.block address
  | _ => true

/-- A buffer that is handed over ends with the converted text: either the
terminating octet fits behind the output, or the octets of the buffer happen
to contain one. -/
def IconvTerminates (srcStr : Octets) (srcLen : Nat) : Prop :=
  let output := iconvOutput oracle srcStr srcLen
  IconvPublishes oracle srcStr srcLen →
    if IconvSucceeds oracle srcStr srcLen then
      output.length < srcLen * 4 % 2 ^ 64
    else 0 ∈ output ++ (iconvBuffer oracle srcLen).drop output.length

instance (srcStr : Octets) (srcLen : Nat) :
    Decidable (IconvTerminates oracle srcStr srcLen) :=
  inferInstanceAs (Decidable (_ → _))

/-- The conversion stays inside the buffer and hands over a string. -/
def ConvertsInside (req : Unpacked) (srcStr : Octets) (srcLen dstLen : Nat)
    (state : State) : Prop :=
  let program := convertText req srcStr srcLen dstLen
  let outcome := program.eval (exec thread) oracle state
  (∀ step ∈ program.trace (exec thread) oracle state,
      step.1.inBounds step.2) ∧
    ∀ address, outcome.1 = some (some address) →
      0 ∈ outcome.2.block address

section Bounds

variable {req : Unpacked} (srcStr : Octets) (srcLen dstLen : Nat)
variable (state : State)

/-- A copy of `sm_length` octets is terminated inside its block. -/
theorem convertsInside_gsm (coding : req.dataCoding = 0) :
    ConvertsInside thread oracle req srcStr srcLen dstLen state := by
  obtain ⟨evaluated, traced⟩ := @convertText_copied thread oracle req srcStr
    srcLen dstLen state coding
  let buffer := fit (req.smLength + 1)
    (oracle (.newChars (req.smLength + 1))).data
  let filled := (state.allocate buffer).2
  let text := srcStr.take req.smLength
  have size : buffer.length = req.smLength + 1 := length_fit _ _
  have short : text.length ≤ req.smLength := List.length_take_le _ _
  have fresh : filled.block state.nextBlock = buffer :=
    state.block_allocate buffer
  have inside : 0 + text.length ≤ (filled.block state.nextBlock).length := by
    rw [fresh]
    omega
  have copied := filled.block_writeChars state.nextBlock 0 text inside
  have kept : ((filled.writeChars state.nextBlock 0 text).block
      state.nextBlock).length = req.smLength + 1 := by
    rw [copied, fresh]
    simp only [List.length_append, List.length_take, List.length_drop]
    omega
  have last : req.smLength + ([0] : Octets).length ≤
      ((filled.writeChars state.nextBlock 0 text).block
        state.nextBlock).length := by
    rw [kept, List.length_singleton]
  unfold ConvertsInside
  dsimp only
  rw [evaluated, traced]
  refine ⟨?_, ?_⟩
  · simp only [List.forall_mem_cons, Op.inBounds, decide_eq_true_eq]
    exact ⟨trivial, inside, last, List.forall_mem_nil _⟩
  · rintro address pointer
    obtain rfl := Option.some.inj (Option.some.inj pointer)
    dsimp only
    rw [State.block_writeChars _ _ _ _ last]
    simp

/-- A conversion from UCS-2 stays inside the buffer and hands over a string
exactly when the buffer it hands over, if any, is terminated. -/
theorem convertsInside_ucs2 (coding : req.dataCoding = 8) :
    ConvertsInside thread oracle req srcStr srcLen dstLen state ↔
      IconvTerminates oracle srcStr srcLen := by
  by_cases opens : IconvOpens oracle
  · obtain ⟨evaluated, traced⟩ := smsIconv_opened thread oracle srcStr srcLen
      ⟨none, dstLen⟩ state opens
    have inside := iconvOutput_inside oracle srcStr srcLen state
    have block := iconvWritten_block oracle srcStr srcLen state
    by_cases succeeds : IconvSucceeds oracle srcStr srcLen
    · have publishes := succeeds.publishes
      have size := iconvWritten_length oracle srcStr srcLen state
      rw [if_pos succeeds, if_pos publishes] at evaluated
      obtain ⟨outcome, steps⟩ :=
        convertText_terminated thread oracle coding evaluated
      unfold ConvertsInside IconvTerminates
      dsimp only
      rw [outcome, steps, traced, if_pos succeeds]
      simp only [List.forall_mem_append, List.forall_mem_cons, Op.inBounds,
        decide_eq_true_eq, size, List.length_singleton]
      constructor
      · intro sound _
        exact sound.1.2.1
      · intro fits
        have room := fits publishes
        refine ⟨⟨⟨trivial, trivial, trivial, inside, List.forall_mem_nil _⟩,
          room, List.forall_mem_nil _⟩, ?_⟩
        rintro address pointer
        obtain rfl := Option.some.inj (Option.some.inj pointer)
        rw [State.block_writeChars _ _ _ _ (by
          rw [size, List.length_singleton]
          exact room)]
        simp
    · rw [if_neg succeeds] at evaluated
      obtain ⟨outcome, steps⟩ := convertText_unterminated thread oracle coding
        evaluated (by decide)
      unfold ConvertsInside IconvTerminates
      dsimp only
      rw [outcome, steps, traced, if_neg succeeds, ← block]
      simp only [List.forall_mem_cons, Op.inBounds, decide_eq_true_eq]
      constructor
      · intro sound publishes
        refine sound.2 state.nextBlock ?_
        rw [if_pos publishes]
      · intro ends
        refine ⟨⟨trivial, trivial, trivial, inside, List.forall_mem_nil _⟩,
          ?_⟩
        intro address pointer
        split at pointer
        · next publishes =>
          obtain rfl := Option.some.inj (Option.some.inj pointer)
          exact ends publishes
        · exact nomatch pointer
  · obtain ⟨evaluated, traced⟩ := smsIconv_closed thread oracle srcStr srcLen
      ⟨none, dstLen⟩ state opens
    obtain ⟨outcome, steps⟩ := convertText_unterminated thread oracle coding
      evaluated (by decide)
    unfold ConvertsInside IconvTerminates
    dsimp only
    rw [outcome, steps, traced]
    simp only [List.forall_mem_cons, Op.inBounds]
    refine iff_of_true ⟨⟨trivial, trivial, List.forall_mem_nil _⟩, ?_⟩
      fun publishes => absurd publishes.1 opens
    exact fun address pointer => nomatch pointer

end Bounds

/-- In every coding. -/
theorem convertsInside_iff
    (req : Unpacked)
    (srcStr : Octets)
    (srcLen dstLen : Nat)
    (state : State) :
    ConvertsInside thread oracle req srcStr srcLen dstLen state ↔
      (req.dataCoding = 8 → IconvTerminates oracle srcStr srcLen) := by
  by_cases ucs2 : req.dataCoding = 8
  · rw [convertsInside_ucs2 thread oracle srcStr srcLen dstLen state ucs2]
    exact ⟨fun ends _ => ends, fun ends => ends ucs2⟩
  · refine iff_of_true ?_ fun coding => absurd coding ucs2
    by_cases gsm : req.dataCoding = 0
    · exact convertsInside_gsm thread oracle srcStr srcLen dstLen state gsm
    · unfold ConvertsInside
      rw [convertText_unsupported (not_or.mpr ⟨ucs2, gsm⟩)]
      exact ⟨List.forall_mem_nil _, fun address pointer => nomatch pointer⟩

/-- In the handler, where the conversion sets the text pointer. -/
theorem conversion_inBounds_iff
    {req : Unpacked}
    {printData : Option Nat}
    {state later : State}
    (converted : (conversion oracle req).eval (exec thread) oracle state =
      (some printData, later)) :
    ((∀ step ∈ (conversion oracle req).trace (exec thread) oracle state,
        step.1.inBounds step.2) ∧
      ∀ address, printData = some address → 0 ∈ later.block address) ↔
      (req.dataCoding = 8 → IconvTerminates oracle
        (selectBody req (oracle .uninitialised).garbage).1
        (selectBody req (oracle .uninitialised).garbage).2) := by
  rw [← convertsInside_iff thread oracle req _ _
    (oracle .uninitialised).garbage.dstLen state]
  unfold ConvertsInside
  unfold conversion at converted ⊢
  dsimp only at converted ⊢
  rw [converted]
  simp only [Option.some.injEq]

/-! ## The consumers of the text -/

variable (conf : SConf)

/-- A delivery leaves the heap as it is. -/
theorem Op.delivers.keepsHeap
    {printData : Option Nat}
    (operation : Op)
    (choice : Choice)
    {before state : State}
    (delivers : operation.delivers printData)
    (same : state.heap = before.heap) :
    (exec thread operation choice state).2.heap = before.heap := by
  have untouched : operation.writes .heap = false := by
    cases operation <;> first | rfl | exact nomatch delivers
  exact (exec_frame thread operation choice state .heap untouched).trans same

/-- The text is read for the report. -/
theorem deliverAndReport_reads
    (caller : Octets)
    (address : Nat)
    (state : State) :
    ∃ later, (.readChars address, later) ∈
      (deliverAndReport conf caller (some address)).trace (exec thread) oracle
        state := by
  let looked := (geodataGet conf (some caller) []).eval (exec thread) oracle
    state
  let delivered := (deliver conf caller (some address) looked.1.1
    looked.1.2).eval (exec thread) oracle looked.2
  unfold deliverAndReport
  simp only [Program.trace_bind]
  exact ⟨delivered.2, List.mem_append_right _ (List.mem_append_right _
    (List.mem_append_left _ List.mem_cons_self))⟩

/-- A text is delivered as a string exactly when it ends inside its
allocation. -/
theorem deliverAndReport_inBounds_iff
    (caller : Octets)
    (printData : Option Nat)
    (state : State) :
    (∀ step ∈ (deliverAndReport conf caller printData).trace (exec thread)
        oracle state, step.1.inBounds step.2) ↔
      ∀ address, printData = some address → 0 ∈ state.block address := by
  have delivers : ∀ step ∈ (deliverAndReport conf caller printData).trace
      (exec thread) oracle state,
      step.1.delivers printData ∧ step.2.heap = state.heap :=
    (deliverAndReport_delivers printData conf caller).trace
      (fun later : State => later.heap = state.heap)
      (fun operation choice _ => Op.delivers.keepsHeap thread operation
        choice) rfl
  have same {later : State} (heap : later.heap = state.heap)
      (address : Nat) : later.block address = state.block address := by
    unfold State.block
    rw [heap]
  constructor
  · rintro sound address rfl
    obtain ⟨later, reads⟩ :=
      deliverAndReport_reads thread oracle conf caller address state
    have ends := sound _ reads
    rw [← same (delivers _ reads).2 address]
    exact of_decide_eq_true ends
  · rintro ends ⟨operation, later⟩ member
    obtain ⟨delivery, heap⟩ := delivers _ member
    cases operation
    case readChars address =>
      refine decide_eq_true ?_
      rw [same heap]
      exact ends address (of_decide_eq_true delivery)
    all_goals first | rfl | exact nomatch delivery

/-- The response and the release of the text touch no contents. -/
theorem respond_inBounds
    (lib : Smpp34)
    (response : Pdu)
    (bufSize : Nat)
    (state : State) :
    ∀ step ∈ (respond lib response bufSize).trace (exec thread) oracle state,
      step.1.inBounds step.2 := by
  rintro ⟨operation, later⟩ member
  have transmission :=
    (respond_transmission lib response bufSize).performs state _ member
  cases operation <;> first | rfl | exact nomatch transmission

theorem deletePrintData_inBounds
    (printData : Option Nat)
    (state : State) :
    ∀ step ∈ (deletePrintData printData).trace (exec thread) oracle state,
      step.1.inBounds step.2 := by
  cases printData with
  | none => exact List.forall_mem_nil _
  | some address =>
      exact List.forall_mem_cons.mpr ⟨rfl, List.forall_mem_nil _⟩

/-! ## The handler -/

variable (lib : Smpp34)

/-- Where a PDU is accepted and its coding is UCS-2, the text that is handed
over is terminated. -/
def TextEnds (pdu : Octets) : Prop :=
  let req := (lib.unpack2 pdu).2
  let body := selectBody req (oracle .uninitialised).garbage
  (lib.unpack2 pdu).1 = 0 → req.dataCoding = 8 →
    IconvTerminates oracle body.1 body.2

instance (pdu : Octets) : Decidable (TextEnds oracle lib pdu) :=
  inferInstanceAs (Decidable (_ → _ → _))

/-- Every write into a text buffer is inside it, and every text that is handed
over ends inside its buffer, exactly when the conversion of the PDU hands over
a buffer that is terminated. -/
theorem smppDeliverSmOper_inBounds_iff
    (buf : Octets)
    (dataLen : Int)
    (bufSize seqNum : Nat)
    (state : State) :
    (∀ step ∈ (smppDeliverSmOper conf lib buf dataLen bufSize seqNum).trace
        (exec thread) oracle state, step.1.inBounds step.2) ↔
      TextEnds oracle lib (buf.take dataLen.toNat) := by
  by_cases accepted : Accepted lib (buf.take dataLen.toNat)
  · generalize unpacked : lib.unpack2 (buf.take dataLen.toNat) = outcome
    obtain ⟨code, req⟩ := outcome
    unfold Accepted at accepted
    unfold TextEnds
    rw [unpacked] at accepted ⊢
    obtain ⟨rfl, supported⟩ := accepted
    obtain ⟨printData, later, converted⟩ :=
      conversion_pointer thread oracle supported (state.linkTlv req.tlv).2
    have conversion := conversion_inBounds_iff thread oracle converted
    rw [smppDeliverSmOper_trace thread oracle conf lib unpacked converted]
    simp only [List.forall_mem_append, deliverAndReport_inBounds_iff]
    constructor
    · rintro ⟨-, inside, ends, -⟩ -
      exact conversion.mp ⟨inside, ends⟩
    · intro ends
      obtain ⟨inside, terminated⟩ := conversion.mpr (ends trivial)
      refine ⟨?_, inside, terminated, respond_inBounds thread oracle lib _ _ _,
        deletePrintData_inBounds thread oracle _ _⟩
      exact List.forall_mem_cons.mpr ⟨rfl, List.forall_mem_cons.mpr
        ⟨rfl, List.forall_mem_nil _⟩⟩
  · rw [smppDeliverSmOper_refused conf accepted]
    refine iff_of_true ?_ fun unpacked coding =>
      absurd ⟨unpacked, .inl coding⟩ accepted
    exact List.forall_mem_cons.mpr ⟨rfl, List.forall_mem_cons.mpr
      ⟨rfl, List.forall_mem_nil _⟩⟩

/-- A message in UCS-2 whose body is a `message_payload` of length zero. -/
def emptyPayload : Octets :=
  ReferenceCodec.deliverSmOctets 7 (ascii "7112") 8 []
    (ReferenceCodec.tlvOctets messagePayloadTag [])

/-- The conversion of nothing succeeds, and the terminating octet is written
behind a buffer of size zero. -/
theorem emptyPayload_outOfBounds :
    let req := (referenceCodec.unpack2 emptyPayload).2
    let body := selectBody req (allSucceeds .uninitialised).garbage
    Accepted referenceCodec emptyPayload ∧ req.smLength = 0 ∧
      req.tlv.map Tlv.tag = [messagePayloadTag] ∧
      IconvSucceeds allSucceeds body.1 body.2 ∧
      ¬∀ step ∈ (smppDeliverSmOper {} referenceCodec emptyPayload
          emptyPayload.length localBufferSize 7).trace (exec .receiver)
          allSucceeds connectedState, step.1.inBounds step.2 := by
  decide +kernel

end Sms112
