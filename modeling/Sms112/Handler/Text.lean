import Sms112.Handler.Stages

/-!
# The text of a message on its way through the gateway

The text handed to the SIP client and to the report is what a C string
consumer reads at `pszPrintData`. It carries the whole body of the message
exactly when the body holds no zero character and, for data coding 0, arrives
in the short message: the copy for that coding is made with `sm_length`, which
is zero when the body is in the optional parameter.
-/

namespace Sms112

open Resumption

/-! ## Bodies and texts -/

/-- The body of a message: the short message, else the first
`message_payload`. -/
def messageBody (req : Unpacked) : Octets :=
  if req.smLength ≠ 0 then req.shortMessage.take req.smLength
  else
    match req.tlv.find? (·.tag = messagePayloadTag) with
    | some tlv => tlv.octet.take tlv.length
    | none => []

/-- One character in UCS-2, high octet first. -/
def ucs2be (character : Char) : Octets :=
  [UInt8.ofNat (character.toNat / 256), UInt8.ofNat character.toNat]

def ucs2Octets (text : List Char) : Octets :=
  text.flatMap ucs2be

def utf8Octets (text : List Char) : Octets :=
  text.flatMap String.utf8EncodeChar

/-- UCS-2 has two octets for each of these characters. -/
def Basic (text : List Char) : Prop :=
  ∀ character ∈ text, character.toNat < 2 ^ 16

/-- The complete text of a message, as its consumers are to get it. -/
inductive MessageText (req : Unpacked) : Octets → Prop
  | ucs2
      (coding : req.dataCoding = 8)
      (text : List Char)
      (basic : Basic text)
      (body : messageBody req = ucs2Octets text) :
      MessageText req (utf8Octets text)
  | gsm (coding : req.dataCoding = 0) : MessageText req (messageBody req)

/-- `iconv` converts from UCS-2 to UTF-8 whatever fits into its output
buffer. -/
structure ConvertsUcs2 (oracle : Op → Choice) : Prop where
  opens : (oracle (.iconvOpen (ascii "UTF-8") (ascii "UCS-2BE"))).ret = 0
  ret : ∀ text room, Basic text → (utf8Octets text).length ≤ room →
    (oracle (.iconv (ucs2Octets text) room)).ret = 0
  inBufLeft : ∀ text room, Basic text → (utf8Octets text).length ≤ room →
    (oracle (.iconv (ucs2Octets text) room)).count = 0
  output : ∀ text room, Basic text → (utf8Octets text).length ≤ room →
    (oracle (.iconv (ucs2Octets text) room)).data = utf8Octets text

/-- The characters of UCS-2 text. -/
def ucs2Text : Octets → List Char
  | high :: low :: rest =>
      Char.ofNat (high.toNat * 256 + low.toNat) :: ucs2Text rest
  | _ => []

/-- An environment in which every call succeeds and `iconv` converts. -/
def iconvConverts : Op → Choice
  | .iconv input _ => { data := utf8Octets (ucs2Text input) }
  | _ => {}

/-- The text an event says was handed to the SIP client or to the report. -/
def handedText : Event → Option (Option Octets)
  | .sipSendReq _ text _ _ => some text
  | .sendReport _ message _ _ => some message
  | _ => none

/-- The texts handed on between two states, newest first. -/
def handedTexts (before after : State) : List (Option Octets) :=
  (newEvents before after).filterMap handedText

/-- Something was handed on, and all of it was the given text. -/
def CarriesText (text : Octets) (before after : State) : Prop :=
  handedTexts before after ≠ [] ∧
    ∀ handed ∈ handedTexts before after, handed = some text

instance (text : Octets) (before after : State) :
    Decidable (CarriesText text before after) := by
  unfold CarriesText
  infer_instance

/-- A zero unit at an even offset. -/
def hasZeroUnit : Octets → Bool
  | high :: low :: rest => (high = 0 && low = 0) || hasZeroUnit rest
  | _ => false

/-- The messages whose text survives: no zero character, and in coding 0 a
short message. -/
def Survives (req : Unpacked) : Prop :=
  if req.dataCoding = 8 then hasZeroUnit (messageBody req) = false
  else req.smLength ≠ 0 ∧ 0 ∉ messageBody req

instance (req : Unpacked) : Decidable (Survives req) := by
  unfold Survives
  infer_instance

@[simp] theorem length_ucs2Octets (text : List Char) :
    (ucs2Octets text).length = 2 * text.length := by
  induction text with
  | nil => rfl
  | cons character text inductionHypothesis =>
      simp only [ucs2Octets, List.flatMap_cons, List.length_append,
        List.length_cons] at inductionHypothesis ⊢
      rw [inductionHypothesis]
      simp [ucs2be]
      omega

theorem length_utf8Octets_le (text : List Char) :
    (utf8Octets text).length ≤ 4 * text.length := by
  induction text with
  | nil => simp [utf8Octets]
  | cons character text inductionHypothesis =>
      have atMostFour : (String.utf8EncodeChar character).length ≤ 4 := by
        unfold String.utf8EncodeChar
        dsimp only
        split <;> [skip; split] <;> [skip; skip; split] <;> simp
      simp only [utf8Octets, List.flatMap_cons, List.length_append,
        List.length_cons] at inductionHypothesis ⊢
      omega

theorem ucs2Text_ucs2Octets {text : List Char} (basic : Basic text) :
    ucs2Text (ucs2Octets text) = text := by
  induction text with
  | nil => rfl
  | cons character text inductionHypothesis =>
      have small := basic character (by simp)
      have rest := inductionHypothesis fun other member =>
        basic other (by simp [member])
      have value : (UInt8.ofNat (character.toNat / 256)).toNat * 256 +
          (UInt8.ofNat character.toNat).toNat = character.toNat := by
        rw [UInt8.toNat_ofNat', UInt8.toNat_ofNat']
        omega
      simp only [ucs2Octets] at rest
      simp only [ucs2Octets, ucs2be, List.flatMap_cons, List.cons_append,
        List.nil_append, ucs2Text, value, Char.ofNat_toNat, rest]

theorem iconvConverts_convertsUcs2 : ConvertsUcs2 iconvConverts where
  opens := rfl
  ret _ _ _ _ := rfl
  inBufLeft _ _ _ _ := rfl
  output _ _ basic _ := congrArg utf8Octets (ucs2Text_ucs2Octets basic)

theorem zero_mem_utf8EncodeChar (character : Char) :
    0 ∈ String.utf8EncodeChar character ↔ character.toNat = 0 := by
  have zero_iff (value : Nat) :
      (0 : UInt8) = UInt8.ofNat value ↔ value % 256 = 0 := by
    rw [← UInt8.toNat_inj, UInt8.toNat_ofNat']
    simp [eq_comm]
  unfold String.utf8EncodeChar
  simp only [Char.toNat]
  split
  · simp only [List.mem_singleton, zero_iff]
    omega
  · split
    · simp only [List.mem_cons, List.not_mem_nil, or_false, zero_iff]
      omega
    · split <;>
        simp only [List.mem_cons, List.not_mem_nil, or_false, zero_iff] <;>
        omega

theorem hasZeroUnit_ucs2Octets {text : List Char} (basic : Basic text) :
    hasZeroUnit (ucs2Octets text) = true ↔ 0 ∈ utf8Octets text := by
  induction text with
  | nil => simp [ucs2Octets, utf8Octets, hasZeroUnit]
  | cons character text inductionHypothesis =>
      have small := basic character (by simp)
      have rest := inductionHypothesis fun other member =>
        basic other (by simp [member])
      have zeroUnit : UInt8.ofNat (character.toNat / 256) = 0 ∧
          UInt8.ofNat character.toNat = 0 ↔ character.toNat = 0 := by
        rw [← UInt8.toNat_inj, ← UInt8.toNat_inj, UInt8.toNat_ofNat',
          UInt8.toNat_ofNat']
        simp only [UInt8.toNat_zero]
        omega
      simp only [ucs2Octets, utf8Octets] at rest
      simp only [ucs2Octets, utf8Octets, ucs2be, List.flatMap_cons,
        List.cons_append, List.nil_append, hasZeroUnit, Bool.or_eq_true,
        Bool.and_eq_true, decide_eq_true_eq, List.mem_append,
        zero_mem_utf8EncodeChar, zeroUnit, rest]

/-- A non-empty body is what the pointer and the length selected for it
designate, whatever the locals held before. -/
theorem selectBody_eq
    {req : Unpacked}
    (nonempty : messageBody req ≠ [])
    (garbage : Garbage) :
    (selectBody req garbage).1.take (selectBody req garbage).2 =
        messageBody req ∧
      (selectBody req garbage).2 = (messageBody req).length ∧
      (selectBody req garbage).2 < 2 ^ 16 := by
  unfold selectBody messageBody at *
  split at nonempty
  next short =>
    have fits := req.smLength_le
    have small := req.smLength_lt
    simp only [short, if_true, ne_eq, not_false_eq_true]
    refine ⟨trivial, ?_, by omega⟩
    rw [List.length_take, Nat.min_eq_left fits]
  next payload =>
    simp only [payload, if_false]
    cases found : req.tlv.find? (·.tag = messagePayloadTag) with
    | none => simp [found] at nonempty
    | some tlv =>
        have fits := tlv.length_le
        have small := tlv.length_lt
        simp only [List.find?_append, found, Option.some_or]
        refine ⟨trivial, ?_, small⟩
        rw [List.length_take, Nat.min_eq_left fits]

/-! ## The message -/

variable (thread : Thread) (conf : SConf) (lib : Smpp34)

/-- A delivery hands the text at `pszPrintData` to the report, and to the SIP
client the same text or none. -/
theorem deliverAndReport_handedTexts
    (oracle : Op → Choice)
    (caller : Octets)
    (printData : Option Nat)
    (state : State) :
    let text := printData.map fun address => cString (state.block address)
    ∃ sipTexts, (sipTexts = [] ∨ sipTexts = [text]) ∧
      Observes handedText (text :: sipTexts) state
        ((deliverAndReport conf caller printData).eval (exec thread) oracle
          state).2 := by
  intro text
  obtain ⟨log, -, events⟩ :=
    deliverAndReport_eval conf oracle thread caller printData state
  have handed : Observes handedText _ state _ :=
    events.through handedText fun event => by
      rcases event with _ | _ | _ | _ | _ | _ | _ | _ |
        ⟨url, _ | body, result⟩ | _ | _ <;> rfl
  have transferSilent (resultString resultXML : Octets) :
      (reportTransfer conf oracle caller text resultString
        resultXML).filterMap handedText = [] := by
    unfold reportTransfer
    split <;> rfl
  unfold deliveryEvents at handed
  rw [List.filterMap_append, List.filterMap_append, transferSilent] at handed
  refine ⟨_, ?_, handed⟩
  unfold sipEvents
  split
  · exact .inr rfl
  · exact .inl rfl

/-- Once the conversion has filled the text buffer, the report gets what a
consumer reads there, and the SIP client gets the same or nothing. -/
theorem smppDeliverSmOper_handedTexts
    {oracle : Op → Choice}
    {buf : Octets}
    {dataLen : Int}
    {req : Unpacked}
    {text : Octets}
    (accepts : lib.unpack2 (buf.take dataLen.toNat) = (0, req))
    (converted : ∀ garbage state, ∃ address later,
      (convertText req (selectBody req garbage).1 (selectBody req garbage).2
          garbage.dstLen).eval (exec thread) oracle state =
        (some (some address), later) ∧
      cString (later.block address) = text)
    (bufSize seqNum : Nat)
    (state : State) :
    ∃ sipTexts, (sipTexts = [] ∨ sipTexts = [some text]) ∧
      handedTexts state
        ((smppDeliverSmOper conf lib buf dataLen bufSize seqNum).eval
          (exec thread) oracle state).2 = some text :: sipTexts := by
  obtain ⟨address, later, evaluated, block⟩ :=
    converted (oracle .uninitialised).garbage (state.linkTlv req.tlv).2
  obtain ⟨sipTexts, sip, delivers⟩ := deliverAndReport_handedTexts thread
    conf oracle req.sourceAddr (some address) later
  rw [Option.map_some, block] at sip delivers
  have responds := eval_quiet thread oracle
    ((respond_transmission lib
      (deliverSmResp req (oracle .uninitialised).garbage) bufSize).mono
        (Op.isTransmission.quiet handedText fun _ _ _ _ => rfl))
    ((deliverAndReport conf req.sourceAddr (some address)).eval
      (exec thread) oracle later).2
  have whole := smppDeliverSmOper_observes conf thread lib rfl accepts
    evaluated bufSize seqNum delivers responds
  exact ⟨sipTexts, sip, whole.newEvents_eq⟩

/-- On UCS-2 text the conversion succeeds, and its output is the text in
UTF-8. -/
theorem ConvertsUcs2.output_eq
    {oracle : Op → Choice}
    {text : List Char}
    {srcStr : Octets}
    {srcLen : Nat}
    (converts : ConvertsUcs2 oracle)
    (basic : Basic text)
    (source : srcStr.take srcLen = ucs2Octets text)
    (length : srcLen = (ucs2Octets text).length)
    (small : srcLen < 2 ^ 16) :
    IconvSucceeds oracle srcStr srcLen ∧
      iconvOutput oracle srcStr srcLen = utf8Octets text := by
  have size : srcLen * 4 % 2 ^ 64 = srcLen * 4 := by omega
  have encoded := length_utf8Octets_le text
  rw [length_ucs2Octets] at length
  have room : (utf8Octets text).length ≤ srcLen * 4 := by omega
  unfold IconvSucceeds iconvOutput
  rw [source, size, converts.output text _ basic room,
    List.take_of_length_le room]
  refine ⟨⟨converts.opens, converts.ret text _ basic room, ?_⟩, rfl⟩
  rw [converts.inBufLeft text _ basic room, Nat.zero_min]

/-- What coding 0 copies of the selected body. -/
theorem selectBody_take_smLength (req : Unpacked) (garbage : Garbage) :
    (selectBody req garbage).1.take req.smLength =
      if req.smLength = 0 then [] else messageBody req := by
  by_cases empty : req.smLength = 0
  · simp [empty]
  · simp [selectBody, messageBody, empty]

/-- The text that reaches the consumers, for either coding. -/
theorem convertText_shows
    {oracle : Op → Choice}
    {req : Unpacked}
    {text : Octets}
    (converts : ConvertsUcs2 oracle)
    (nonempty : messageBody req ≠ [])
    (message : MessageText req text) :
    ∃ shown, (shown = text ↔ Survives req) ∧
      ∀ garbage state, ∃ address later,
        (convertText req (selectBody req garbage).1
            (selectBody req garbage).2 garbage.dstLen).eval (exec thread)
          oracle state = (some (some address), later) ∧
        cString (later.block address) = shown := by
  cases message with
  | ucs2 coding characters basic body =>
      refine ⟨cString (utf8Octets characters), ?_, ?_⟩
      · have zero := hasZeroUnit_ucs2Octets basic
        rw [cString_eq_self_iff, Survives, if_pos coding, body, ← zero,
          Bool.not_eq_true]
      · intro garbage state
        obtain ⟨source, length, small⟩ := selectBody_eq nonempty garbage
        obtain ⟨succeeds, output⟩ := converts.output_eq basic
          (source.trans body) (by rw [length, body]) small
        rw [← output]
        exact convertText_ucs2 thread coding succeeds garbage.dstLen state
  | gsm coding =>
      refine ⟨cString (if req.smLength = 0 then [] else messageBody req),
        ?_, ?_⟩
      · have other : req.dataCoding ≠ 8 := by omega
        rw [Survives, if_neg other]
        by_cases empty : req.smLength = 0
        · simpa [empty, cString] using nonempty.symm
        · simpa [empty] using cString_eq_self_iff (messageBody req)
      · intro garbage state
        rw [← selectBody_take_smLength req garbage]
        exact convertText_gsm thread oracle coding
          (smLength_le_selectBody req garbage) _ _ state

/-- The text of an accepted message is handed on complete exactly when it
holds no zero character and, in coding 0, arrives in the short message. -/
theorem smppDeliverSmOper_carriesText_iff
    {oracle : Op → Choice}
    {buf : Octets}
    {dataLen : Int}
    (req : Unpacked)
    {text : Octets}
    (converts : ConvertsUcs2 oracle)
    (accepts : lib.unpack2 (buf.take dataLen.toNat) = (0, req))
    (nonempty : messageBody req ≠ [])
    (message : MessageText req text)
    (bufSize seqNum : Nat)
    (state : State) :
    CarriesText text state
        ((smppDeliverSmOper conf lib buf dataLen bufSize seqNum).eval
          (exec thread) oracle state).2 ↔
      Survives req := by
  obtain ⟨shown, equal_iff, converted⟩ :=
    convertText_shows thread converts nonempty message
  obtain ⟨sipTexts, sip, handed⟩ := smppDeliverSmOper_handedTexts thread
    conf lib accepts converted bufSize seqNum state
  rw [← equal_iff, CarriesText, handed]
  constructor
  · intro carries
    have report := carries.2 (some shown) List.mem_cons_self
    exact Option.some_inj.mp report
  · rintro rfl
    refine ⟨List.cons_ne_nil _ _, ?_⟩
    rcases sip with rfl | rfl <;> simp

/-- A Cyrillic message in UCS-2, in the short message. -/
def cyrillicDeliverSm : Octets :=
  ReferenceCodec.deliverSmOctets 7 (ascii "7112") 8 [4, 31, 4, 62] []

theorem cyrillicDeliverSm_carriesText :
    CarriesText (utf8Octets ['П', 'о']) {}
      ((smppDeliverSmOper {} referenceCodec cyrillicDeliverSm
          cyrillicDeliverSm.length localBufferSize 7).eval
        (exec .receiver) iconvConverts {}).2 :=
  (smppDeliverSmOper_carriesText_iff .receiver {} referenceCodec
    (referenceCodec.unpack2 cyrillicDeliverSm).2
    iconvConverts_convertsUcs2 (Prod.ext (by decide +kernel) rfl)
    (by decide +kernel)
    (.ucs2 (by decide +kernel) ['П', 'о'] (by simp [Basic])
      (by decide +kernel))
    localBufferSize 7 {}).mpr (by decide +kernel)

/-- A message in coding 0 whose body is in the `message_payload`. -/
def payloadDeliverSm : Octets :=
  ReferenceCodec.deliverSmOctets 7 (ascii "7112") 0 []
    (ReferenceCodec.tlvOctets messagePayloadTag (ascii "A"))

/-- Of this message nothing but an empty text is handed on. -/
theorem payloadDeliverSm_text_lost :
    ConvertsUcs2 iconvConverts ∧
      ∃ req, referenceCodec.unpack2 payloadDeliverSm = (0, req) ∧
        messageBody req ≠ [] ∧ MessageText req (ascii "A") ∧
        ¬CarriesText (ascii "A") {}
          ((smppDeliverSmOper {} referenceCodec payloadDeliverSm
              payloadDeliverSm.length localBufferSize 7).eval
            (exec .receiver) iconvConverts {}).2 := by
  have body : messageBody (referenceCodec.unpack2 payloadDeliverSm).2 =
      ascii "A" := by
    decide +kernel
  refine ⟨iconvConverts_convertsUcs2,
    (referenceCodec.unpack2 payloadDeliverSm).2,
    Prod.ext (by decide +kernel) rfl, by rw [body]; decide, ?_,
    by decide +kernel⟩
  exact body ▸ .gsm (by decide +kernel)

end Sms112
