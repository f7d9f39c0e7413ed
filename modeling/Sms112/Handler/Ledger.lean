import Sms112.Handler.Outcome
import Sms112.Handler.Text
import Sms112.Handler.TextBuffer
import Sms112.Model.Threads

/-!
# The ledger of allocations

Handling a message obtains a block for every optional parameter and one for the
text. The blocks of the optional parameters are never released, and the one of
the text only if it is the text pointer: a conversion that cannot be opened or
fails leaves it behind.
-/

namespace Sms112

open Resumption

/-! ## Blocks obtained and released -/

/-- The blocks an operation obtains. -/
def Op.obtains (state : State) : Op → List Nat
  | .newChars _ => [state.nextBlock]
  | .linkTlv tlv => List.range' state.nextBlock tlv.length
  | _ => []

/-- The blocks an operation releases. -/
def Op.releases : Op → List Nat
  | .deleteChars address => [address]
  | .destroyTlv nodes => nodes
  | _ => []

/-- The blocks obtained by a sequence of operations. -/
def obtained (steps : List (Op × State)) : List Nat :=
  steps.flatMap fun step => step.1.obtains step.2

/-- The blocks released by a sequence of operations. -/
def released (steps : List (Op × State)) : List Nat :=
  steps.flatMap fun step => step.1.releases

@[simp] theorem obtained_nil : obtained [] = [] := rfl

@[simp] theorem released_nil : released [] = [] := rfl

@[simp] theorem obtained_cons (step : Op × State) (steps : List (Op × State)) :
    obtained (step :: steps) = step.1.obtains step.2 ++ obtained steps :=
  List.flatMap_cons

@[simp] theorem released_cons (step : Op × State) (steps : List (Op × State)) :
    released (step :: steps) = step.1.releases ++ released steps :=
  List.flatMap_cons

@[simp] theorem obtained_append (first second : List (Op × State)) :
    obtained (first ++ second) = obtained first ++ obtained second :=
  List.flatMap_append

@[simp] theorem released_append (first second : List (Op × State)) :
    released (first ++ second) = released first ++ released second :=
  List.flatMap_append

/-- Every block obtained is released exactly once. -/
def ReleasesOnce (steps : List (Op × State)) : Prop :=
  ∀ address ∈ obtained steps, (released steps).count address = 1

/-- The operations that neither obtain nor release a block. -/
def Op.isUncounted : Op → Bool
  | .newChars _ | .linkTlv _ | .deleteChars _ | .destroyTlv _ => false
  | _ => true

variable {α : Type} (thread : Thread) (oracle : Op → Choice)

theorem uncounted
    {program : Prog α}
    (uses : program.Uses fun operation => operation.isUncounted)
    (state : State) :
    obtained (program.trace (exec thread) oracle state) = [] ∧
      released (program.trace (exec thread) oracle state) = [] := by
  have performs : ∀ step ∈ program.trace (exec thread) oracle state,
      step.1.isUncounted :=
    uses.performs state
  unfold obtained released
  rw [List.flatMap_eq_nil_iff, List.flatMap_eq_nil_iff]
  constructor
  all_goals
    rintro ⟨operation, before⟩ member
    have none := performs _ member
    cases operation <;> first | rfl | exact nomatch none

/-! ## The live blocks -/

/-- The addresses of the live blocks have been given out. -/
def State.HeapBelow (state : State) : Prop :=
  ∀ entry ∈ state.heap, entry.1 < state.nextBlock

theorem State.HeapBelow.of_empty
    {state : State}
    (empty : state.heap = []) :
    state.HeapBelow := by
  intro entry member
  rw [empty] at member
  exact nomatch member

theorem State.HeapBelow.fresh
    {state : State}
    (below : state.HeapBelow) :
    ∀ entry ∈ state.heap, entry.1 ≠ state.nextBlock :=
  fun entry member => Nat.ne_of_lt (below entry member)

/-- Writing into a block keeps the addresses. -/
theorem State.storeBlock_keys
    {state : State}
    {address : Nat}
    {contents : Octets}
    {entry : Nat × Octets}
    (member : entry ∈ (state.storeBlock address contents).heap) :
    ∃ old ∈ state.heap, entry.1 = old.1 := by
  obtain ⟨old, live, rfl⟩ := List.mem_map.mp member
  refine ⟨old, live, ?_⟩
  split <;> rfl

/-- No operation gives an address out twice. -/
theorem exec_heapBelow
    (operation : Op)
    (choice : Choice)
    {state : State}
    (below : state.HeapBelow) :
    (exec thread operation choice state).2.HeapBelow := by
  by_cases untouched : operation.writes .heap = false ∧
      operation.writes .nextBlock = false
  · have heap := exec_frame thread operation choice state .heap untouched.1
    have next :=
      exec_frame thread operation choice state .nextBlock untouched.2
    intro entry member
    rw [heap] at member
    rw [next]
    exact below entry member
  · cases operation
    case malloc size =>
      dsimp only [exec]
      split
      · exact below
      · exact fun entry member => Nat.lt_succ_of_lt (below entry member)
    case newChars size =>
      exact List.forall_mem_cons.mpr ⟨Nat.lt_succ_self _,
        fun entry member => Nat.lt_succ_of_lt (below entry member)⟩
    case writeChars address offset data =>
      dsimp only [exec]
      rcases state.writeChars_cases address offset data with
        equal | ⟨contents, equal⟩ <;> rw [equal]
      · exact below
      · intro entry member
        obtain ⟨old, live, same⟩ := State.storeBlock_keys member
        exact same ▸ below old live
    case deleteChars address =>
      exact fun entry member => below entry (List.mem_of_mem_filter member)
    case linkTlv tlv =>
      intro entry member
      rcases List.mem_append.mp member with linked | old
      · have node := List.mem_range'_1.mp (List.of_mem_zip linked).1
        exact node.2
      · exact Nat.lt_add_right _ (below entry old)
    case destroyTlv nodes =>
      exact fun entry member => below entry (List.mem_of_mem_filter member)
    all_goals exact absurd ⟨rfl, rfl⟩ untouched

/-- The gateway never gives an address out twice. -/
theorem gateway_heapBelow
    (conf : SConf)
    (lib : Smpp34)
    {condition : Machine.Condition Op Thread Choice State}
    {config : Config Res Thread State Label}
    (reach : (gateway conf lib).Reach condition gatewayStart config) :
    config.state.HeapBelow :=
  reach.invariant (.of_empty rfl) fun thread operation choice _ below _ =>
    exec_heapBelow thread operation choice below

/-- The heap has one block more than another. -/
def State.Owns (address : Nat) (heap : List (Nat × Octets))
    (state : State) : Prop :=
  ∃ contents, state.heap = (address, contents) :: heap

namespace State.Owns

variable {address : Nat} {heap : List (Nat × Octets)} {state : State}

theorem writeChars
    (owns : state.Owns address heap)
    (fresh : ∀ entry ∈ heap, entry.1 ≠ address)
    (offset : Nat)
    (data : Octets) :
    (state.writeChars address offset data).Owns address heap := by
  rcases state.writeChars_cases address offset data with
    equal | ⟨contents, equal⟩ <;> rw [equal]
  · exact owns
  · obtain ⟨old, live⟩ := owns
    refine ⟨contents, ?_⟩
    unfold storeBlock
    dsimp only
    rw [live, List.map_cons, if_pos rfl]
    refine congrArg _ (Eq.trans ?_ (List.map_id heap))
    exact List.map_congr_left fun entry member =>
      if_neg (fresh entry member)

theorem release
    (owns : state.Owns address heap)
    (fresh : ∀ entry ∈ heap, entry.1 ≠ address) :
    (state.release address).heap = heap := by
  obtain ⟨contents, live⟩ := owns
  unfold State.release
  dsimp only
  rw [live, List.filter_cons_of_neg (by simp), List.filter_eq_self]
  intro entry member
  exact decide_eq_true (fresh entry member)

end State.Owns

/-! ## The block of the text -/

section Conversion

variable {req : Unpacked} {srcStr : Octets} {srcLen dstLen : Nat}
variable {printData : Option Nat} {state later : State}

/-- The conversion obtains one block, and it is the text pointer unless a
conversion from UCS-2 cannot be opened or fails. -/
theorem convertText_ledger
    (converted : (convertText req srcStr srcLen dstLen).eval (exec thread)
      oracle state = (some printData, later)) :
    let steps := (convertText req srcStr srcLen dstLen).trace (exec thread)
      oracle state
    obtained steps = [state.nextBlock] ∧ released steps = [] ∧
      (printData =
        if req.dataCoding = 8 → IconvPublishes oracle srcStr srcLen then
          some state.nextBlock
        else none) ∧
      (state.HeapBelow → later.Owns state.nextBlock state.heap) := by
  dsimp only
  by_cases ucs2 : req.dataCoding = 8
  · simp only [ucs2, forall_const]
    have filled : (iconvFilled oracle srcLen state).Owns state.nextBlock
        state.heap := ⟨_, rfl⟩
    by_cases opens : IconvOpens oracle
    · obtain ⟨evaluated, traced⟩ := smsIconv_opened thread oracle srcStr
        srcLen ⟨none, dstLen⟩ state opens
      have written (below : state.HeapBelow) :
          (iconvWritten oracle srcStr srcLen state).Owns state.nextBlock
            state.heap :=
        filled.writeChars below.fresh _ _
      by_cases succeeds : IconvSucceeds oracle srcStr srcLen
      · have publishes := succeeds.publishes
        rw [if_pos succeeds, if_pos publishes] at evaluated
        obtain ⟨outcome, steps⟩ :=
          convertText_terminated thread oracle ucs2 evaluated
        obtain ⟨pointer, rfl⟩ := Prod.mk.inj (converted.symm.trans outcome)
        rw [steps, traced, if_pos publishes]
        exact ⟨rfl, rfl, Option.some.inj pointer,
          fun below => (written below).writeChars below.fresh _ _⟩
      · rw [if_neg succeeds] at evaluated
        obtain ⟨outcome, steps⟩ := convertText_unterminated thread oracle
          ucs2 evaluated (by decide)
        obtain ⟨pointer, rfl⟩ := Prod.mk.inj (converted.symm.trans outcome)
        rw [steps, traced]
        refine ⟨rfl, rfl, (Option.some.inj pointer).trans ?_, written⟩
        split <;> rfl
    · obtain ⟨evaluated, traced⟩ := smsIconv_closed thread oracle srcStr
        srcLen ⟨none, dstLen⟩ state opens
      obtain ⟨outcome, steps⟩ := convertText_unterminated thread oracle ucs2
        evaluated (by decide)
      obtain ⟨pointer, rfl⟩ := Prod.mk.inj (converted.symm.trans outcome)
      rw [steps, traced, if_neg fun publishes => opens publishes.1]
      exact ⟨rfl, rfl, Option.some.inj pointer, fun _ => filled⟩
  · simp only [ucs2, false_imp_iff, if_true]
    by_cases gsm : req.dataCoding = 0
    · obtain ⟨outcome, steps⟩ := @convertText_copied thread oracle req srcStr
        srcLen dstLen state gsm
      obtain ⟨pointer, rfl⟩ := Prod.mk.inj (converted.symm.trans outcome)
      rw [steps]
      refine ⟨rfl, rfl, Option.some.inj pointer, fun below => ?_⟩
      have filled : (state.allocate (fit (req.smLength + 1)
          (oracle (.newChars (req.smLength + 1))).data)).2.Owns
            state.nextBlock state.heap := ⟨_, rfl⟩
      exact (filled.writeChars below.fresh _ _).writeChars below.fresh _ _
    · rw [convertText_unsupported (not_or.mpr ⟨ucs2, gsm⟩)] at converted
      exact nomatch congrArg Prod.fst converted

end Conversion

/-! ## One message -/

variable (conf : SConf) (lib : Smpp34)

/-- No optional parameters are unpacked, and the conversion of a text in UCS-2
hands its buffer over. -/
def Releasable (pdu : Octets) : Prop :=
  let req := (lib.unpack2 pdu).2
  let body := selectBody req (oracle .uninitialised).garbage
  req.tlv = [] ∧
    ((lib.unpack2 pdu).1 = 0 → req.dataCoding = 8 →
      IconvPublishes oracle body.1 body.2)

instance (pdu : Octets) : Decidable (Releasable oracle lib pdu) :=
  decidable_of_iff ((lib.unpack2 pdu).2.tlv.isEmpty ∧ _)
    (and_congr_left' List.isEmpty_iff)

theorem Op.delivers.isUncounted
    {printData : Option Nat}
    (operation : Op)
    (delivers : operation.delivers printData) :
    operation.isUncounted := by
  cases operation <;> first | rfl | exact nomatch delivers

theorem Op.isTransmission.isUncounted
    (operation : Op)
    (transmission : operation.isTransmission) :
    operation.isUncounted := by
  cases operation <;> first | rfl | exact nomatch transmission

theorem deletePrintData_ledger (printData : Option Nat) (state : State) :
    let steps := (deletePrintData printData).trace (exec thread) oracle state
    obtained steps = [] ∧ released steps = printData.toList := by
  cases printData <;> exact ⟨rfl, rfl⟩

/-- The blocks that an accepted message obtains and releases. -/
theorem smppDeliverSmOper_ledger
    {buf : Octets}
    {dataLen : Int}
    {req : Unpacked}
    {printData : Option Nat}
    {state later : State}
    (accepts : lib.unpack2 (buf.take dataLen.toNat) = (0, req))
    (converted : (conversion oracle req).eval (exec thread) oracle
      (state.linkTlv req.tlv).2 = (some printData, later))
    (bufSize seqNum : Nat) :
    let steps := (smppDeliverSmOper conf lib buf dataLen bufSize
      seqNum).trace (exec thread) oracle state
    obtained steps = List.range' state.nextBlock req.tlv.length ++
        [state.nextBlock + req.tlv.length] ∧
      released steps = printData.toList := by
  obtain ⟨obtains, releases, -, -⟩ := convertText_ledger thread oracle converted
  have delivery := uncounted thread oracle
    ((deliverAndReport_delivers printData conf req.sourceAddr).mono
      Op.delivers.isUncounted)
  have response := uncounted thread oracle
    ((respond_transmission lib (deliverSmResp req
      (oracle .uninitialised).garbage) bufSize).mono
        Op.isTransmission.isUncounted)
  have release := deletePrintData_ledger thread oracle printData
  rw [smppDeliverSmOper_trace thread oracle conf lib accepts converted]
  unfold conversion
  simp only [obtained_append, released_append, obtained_cons, released_cons,
    obtained_nil, released_nil, (delivery _).1, (delivery _).2,
    (response _).1, (response _).2, (release _).1, (release _).2, obtains,
    releases, List.append_nil, List.nil_append]
  exact ⟨rfl, rfl⟩

/-- The blocks that a message which is not accepted obtains. -/
theorem smppDeliverSmOper_refused_ledger
    {buf : Octets}
    {dataLen : Int}
    (refused : ¬Accepted lib (buf.take dataLen.toNat))
    (bufSize seqNum : Nat)
    (state : State) :
    let steps := (smppDeliverSmOper conf lib buf dataLen bufSize
      seqNum).trace (exec thread) oracle state
    obtained steps = List.range' state.nextBlock
        (lib.unpack2 (buf.take dataLen.toNat)).2.tlv.length ∧
      released steps = [] := by
  rw [smppDeliverSmOper_refused conf refused]
  exact ⟨List.append_nil _, rfl⟩

/-- One released block accounts for the blocks obtained exactly when it is the
only one of them. -/
theorem count_released_iff
    (first count : Nat)
    (isLast : Prop) [Decidable isLast] :
    (∀ address ∈ List.range' first count ++ [first + count],
        (if isLast then some (first + count)
          else none).toList.count address = 1) ↔
      count = 0 ∧ isLast := by
  constructor
  · intro once
    have last := once (first + count) (List.mem_append_right _
      List.mem_cons_self)
    have handed : isLast := by
      by_contra lost
      rw [if_neg lost] at last
      exact nomatch last
    refine ⟨?_, handed⟩
    by_contra some_count
    have begin := once first (List.mem_append_left _
      (List.mem_range'_1.mpr (by omega)))
    rw [if_pos handed, Option.toList_some, List.count_singleton] at begin
    exact some_count (by simpa using begin)
  · rintro ⟨rfl, handed⟩
    simp [handed]

/-- A message releases every block it has obtained once exactly when it has no
optional parameters and its text is handed over. -/
theorem smppDeliverSmOper_releasesOnce_iff
    (buf : Octets)
    (dataLen : Int)
    (bufSize seqNum : Nat)
    (state : State) :
    ReleasesOnce ((smppDeliverSmOper conf lib buf dataLen bufSize
        seqNum).trace (exec thread) oracle state) ↔
      Releasable oracle lib (buf.take dataLen.toNat) := by
  by_cases accepted : Accepted lib (buf.take dataLen.toNat)
  · generalize unpacked : lib.unpack2 (buf.take dataLen.toNat) = outcome
    obtain ⟨code, req⟩ := outcome
    unfold Accepted at accepted
    unfold Releasable
    rw [unpacked] at accepted ⊢
    obtain ⟨rfl, supported⟩ := accepted
    obtain ⟨printData, later, converted⟩ :=
      conversion_pointer thread oracle supported (state.linkTlv req.tlv).2
    obtain ⟨-, -, pointer, -⟩ := convertText_ledger thread oracle converted
    obtain ⟨obtains, releases⟩ := smppDeliverSmOper_ledger thread oracle conf
      lib unpacked converted bufSize seqNum
    unfold ReleasesOnce
    rw [obtains, releases, pointer]
    refine (count_released_iff _ _ _).trans ?_
    rw [List.length_eq_zero_iff]
    simp only [forall_const]
  · obtain ⟨obtains, releases⟩ := smppDeliverSmOper_refused_ledger thread
      oracle conf lib accepted bufSize seqNum state
    unfold ReleasesOnce Releasable
    rw [obtains, releases]
    constructor
    · intro once
      refine ⟨List.length_eq_zero_iff.mp ?_, fun unpacked coding =>
        absurd ⟨unpacked, .inl coding⟩ accepted⟩
      by_contra some_count
      exact nomatch once state.nextBlock
        (List.mem_range'_1.mpr (by omega))
    · rintro ⟨empty, -⟩
      rw [empty]
      exact List.forall_mem_nil _

/-! ## Any number of messages -/

theorem eval_keepsHeap
    {program : Prog α}
    (uses : program.Uses fun operation => operation.writes .heap = false)
    (state : State) :
    (program.eval (exec thread) oracle state).2.heap = state.heap := by
  induction program generalizing state with
  | ret value => rfl
  | perform operation next inductionHypothesis =>
      exact (inductionHypothesis _ (uses.2 _) _).trans
        (exec_frame thread operation _ state .heap uses.1)

theorem eval_heapBelow
    (program : Prog α)
    {state : State}
    (below : state.HeapBelow) :
    (program.eval (exec thread) oracle state).2.HeapBelow := by
  induction program generalizing state with
  | ret value => exact below
  | perform operation next inductionHypothesis =>
      exact inductionHypothesis _ (exec_heapBelow thread operation _ below)

theorem Op.delivers.heap
    {printData : Option Nat}
    (operation : Op)
    (delivers : operation.delivers printData) :
    operation.writes .heap = false := by
  cases operation <;> first | rfl | exact nomatch delivers

theorem Op.isTransmission.heap
    (operation : Op)
    (transmission : operation.isTransmission) :
    operation.writes .heap = false := by
  cases operation <;> first | rfl | exact nomatch transmission

/-- After a message without optional parameters whose text is handed over the
heap is as it was before. -/
theorem smppDeliverSmOper_heap
    {buf : Octets}
    {dataLen : Int}
    {state : State}
    (below : state.HeapBelow)
    (releasable : Releasable oracle lib (buf.take dataLen.toNat))
    (bufSize seqNum : Nat) :
    ((smppDeliverSmOper conf lib buf dataLen bufSize seqNum).eval
      (exec thread) oracle state).2.heap = state.heap := by
  unfold Releasable at releasable
  by_cases accepted : Accepted lib (buf.take dataLen.toNat)
  · generalize unpacked : lib.unpack2 (buf.take dataLen.toNat) = outcome at *
    obtain ⟨code, req⟩ := outcome
    unfold Accepted at accepted
    rw [unpacked] at accepted
    obtain ⟨rfl, supported⟩ := accepted
    obtain ⟨empty, publishes⟩ := releasable
    obtain ⟨printData, later, converted⟩ :=
      conversion_pointer thread oracle supported (state.linkTlv req.tlv).2
    rw [smppDeliverSmOper_eval conf thread lib unpacked converted]
    have linked : (state.linkTlv req.tlv).2 = state := by
      rw [empty]
      rfl
    rw [linked] at converted
    obtain ⟨-, -, pointer, owns⟩ :=
      convertText_ledger thread oracle converted
    rw [if_pos (publishes rfl)] at pointer
    obtain ⟨contents, live⟩ := owns below
    have delivered := eval_keepsHeap thread oracle
      ((deliverAndReport_delivers printData conf req.sourceAddr).mono
        Op.delivers.heap) later
    have answered := eval_keepsHeap thread oracle
      ((respond_transmission lib (deliverSmResp req
        (oracle .uninitialised).garbage) bufSize).mono
          Op.isTransmission.heap)
      ((deliverAndReport conf req.sourceAddr printData).eval (exec thread)
        oracle later).2
    rw [pointer] at delivered answered ⊢
    exact State.Owns.release
      ⟨contents, (answered.trans delivered).trans live⟩ below.fresh
  · rw [smppDeliverSmOper_refused conf accepted, releasable.1]
    rfl

/-- A call of `sms112_smpp_deliver_sm_oper` with what its environment
answers. -/
structure Delivery where
  oracle : Op → Choice
  buf : Octets
  dataLen : Int
  bufSize : Nat
  seqNum : Nat

/-- The PDU of a call. -/
def Delivery.pdu (delivery : Delivery) : Octets :=
  delivery.buf.take delivery.dataLen.toNat

/-- The program of a call. -/
def Delivery.program (delivery : Delivery) : Prog Int :=
  smppDeliverSmOper conf lib delivery.buf delivery.dataLen delivery.bufSize
    delivery.seqNum

/-- The state after a call. -/
def Delivery.after (delivery : Delivery) (state : State) : State :=
  ((delivery.program conf lib).eval (exec thread) delivery.oracle state).2

/-- The state after a sequence of calls. -/
def deliverAll (deliveries : List Delivery) (state : State) : State :=
  deliveries.foldl (fun state delivery => delivery.after thread conf lib state)
    state

/-- In a sequence of calls each has released every block it obtained exactly
once when it returns. -/
def EachReleasesOnce : List Delivery → State → Prop
  | [], _ => True
  | delivery :: deliveries, state =>
      ReleasesOnce ((delivery.program conf lib).trace (exec thread)
          delivery.oracle state) ∧
        EachReleasesOnce deliveries (delivery.after thread conf lib state)

/-- Handling a sequence of messages keeps no memory: each call releases what it
obtains, and the live blocks are those from before. -/
def KeepsNoMemory (deliveries : List Delivery) (state : State) : Prop :=
  EachReleasesOnce thread conf lib deliveries state ∧
    (deliverAll thread conf lib deliveries state).heap = state.heap

/-- Handling messages keeps no memory exactly when each of them is without
optional parameters and, in UCS-2, its text is handed over. -/
theorem deliverAll_keepsNoMemory_iff
    (deliveries : List Delivery)
    {state : State}
    (below : state.HeapBelow) :
    KeepsNoMemory thread conf lib deliveries state ↔
      ∀ delivery ∈ deliveries,
        Releasable delivery.oracle lib delivery.pdu := by
  unfold KeepsNoMemory
  induction deliveries generalizing state with
  | nil => exact iff_of_true ⟨trivial, rfl⟩ (List.forall_mem_nil _)
  | cons delivery deliveries inductionHypothesis =>
      have once := smppDeliverSmOper_releasesOnce_iff thread delivery.oracle
        conf lib delivery.buf delivery.dataLen delivery.bufSize
        delivery.seqNum state
      have rest := inductionHypothesis
        (eval_heapBelow thread delivery.oracle (delivery.program conf lib)
          below)
      have heap (releasable : Releasable delivery.oracle lib delivery.pdu) :
          (delivery.after thread conf lib state).heap = state.heap :=
        smppDeliverSmOper_heap thread delivery.oracle conf lib below
          releasable delivery.bufSize delivery.seqNum
      rw [List.forall_mem_cons]
      constructor
      · rintro ⟨⟨one, others⟩, final⟩
        have releasable := once.mp one
        exact ⟨releasable,
          rest.mp ⟨others, final.trans (heap releasable).symm⟩⟩
      · rintro ⟨releasable, all⟩
        obtain ⟨others, final⟩ := rest.mpr all
        exact ⟨⟨once.mpr releasable, others⟩, final.trans (heap releasable)⟩

/-- The call for a PDU on which everything succeeds. -/
def plainDelivery (pdu : Octets) : Delivery where
  oracle := allSucceeds
  buf := pdu
  dataLen := pdu.length
  bufSize := localBufferSize
  seqNum := 7

/-- Two messages in coding 0 without optional parameters. -/
theorem plainDeliverSm_keepsNoMemory :
    KeepsNoMemory .receiver {} referenceCodec
      [plainDelivery plainDeliverSm, plainDelivery plainDeliverSm]
      connectedState :=
  (deliverAll_keepsNoMemory_iff .receiver {} referenceCodec
    [plainDelivery plainDeliverSm, plainDelivery plainDeliverSm]
    (.of_empty rfl)).mpr (by decide +kernel)

/-- Of a message with an optional parameter a block stays behind. -/
theorem payloadDeliverSm_leaks :
    ¬KeepsNoMemory .receiver {} referenceCodec
      [plainDelivery payloadDeliverSm] connectedState := by
  rintro ⟨-, heap⟩
  have length := congrArg List.length heap
  exact absurd length (by decide +kernel)

end Sms112
