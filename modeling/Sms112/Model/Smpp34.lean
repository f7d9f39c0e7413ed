import Sms112.Model.Octets

/-!
# PDUs and the packing library

The gateway leaves the wire format to `libsmpp34`, which is not part of the
repository. Its two entry points are a parameter of the model, `Smpp34`;
`Smpp34.Faithful` states what the program relies on: both carry the header
fields, and nothing shorter than a header is unpacked.

`referenceCodec` packs and unpacks the PDUs the gateway exchanges as SMPP 3.4
lays them out. It is a faithful instance of the parameter.
-/

namespace Sms112

/-! ## Identifiers -/

def ESME_ROK : Nat := 0
def SMPP_VERSION : Nat := 0x34

def DELIVER_SM : Nat := 0x00000005
def UNBIND : Nat := 0x00000006
def BIND_TRANSCEIVER : Nat := 0x00000009
def ENQUIRE_LINK : Nat := 0x00000015
def GENERIC_NACK : Nat := 0x80000000
def DELIVER_SM_RESP : Nat := 0x80000005
def UNBIND_RESP : Nat := 0x80000006
def BIND_TRANSCEIVER_RESP : Nat := 0x80000009
def ENQUIRE_LINK_RESP : Nat := 0x80000015

/-- Tag of the `message_payload` parameter. -/
def messagePayloadTag : Nat := 0x0424

/-! ## PDU structures -/

/-- `SPDUHdr`: the header fields the handler reads, in host order. -/
structure SPDUHdr where
  commandLength : Nat
  commandId : Nat
  sequenceNumber : Nat
  deriving DecidableEq

/-- Length of a PDU header. -/
def headerLength : Nat := 16

/-- The header at the front of a buffer. -/
def SPDUHdr.ofOctets (buffer : Octets) : SPDUHdr where
  commandLength := word buffer 0
  commandId := word buffer 4
  sequenceNumber := word buffer 12

/-- The header depends on the first octets only. -/
theorem ofOctets_take
    {buffer : Octets}
    {count : Nat}
    (whole : headerLength ≤ count) :
    SPDUHdr.ofOctets (buffer.take count) = SPDUHdr.ofOctets buffer := by
  unfold headerLength at whole
  unfold SPDUHdr.ofOctets
  rw [word_take (by omega), word_take (by omega), word_take (by omega)]

/-- Bit 31 of the command identifier marks a response. -/
def SPDUHdr.isResponse (header : SPDUHdr) : Bool :=
  header.commandId.testBit 31

/-- A decoded optional parameter. -/
structure Tlv where
  tag : Nat
  length : Nat
  octet : Octets
  length_le : length ≤ octet.length
  length_lt : length < 2 ^ 16

/-- What `smpp34_unpack2` leaves in the structure it is given: the header, the
fields of `deliver_sm_t` the gateway reads, and the optional parameters. -/
structure Unpacked where
  commandId : Nat
  commandStatus : Nat
  sequenceNumber : Nat
  sourceAddr : Octets
  dataCoding : Nat
  smLength : Nat
  shortMessage : Octets
  tlv : List Tlv
  smLength_le : smLength ≤ shortMessage.length
  smLength_lt : smLength < 2 ^ 8

/-- The part of a packed structure that follows its header. -/
inductive PduBody
  | headerOnly
  | bindTransceiver
      (systemId password systemType : Octets)
      (interfaceVersion : Nat)
  | deliverSmResp (rest : Octets)
  deriving DecidableEq

/-- A structure handed to `smpp34_pack2`. -/
structure Pdu where
  commandId : Nat
  commandStatus : Nat
  sequenceNumber : Nat
  body : PduBody
  deriving DecidableEq

/-- The entry points of the packing library: each returns its code, zero for
success, with what it wrote. `pack2` is given the size of its buffer. -/
structure Smpp34 where
  unpack2 : Octets → Int × Unpacked
  pack2 : Pdu → Nat → Int × Octets

/-- The documented behaviour the program relies on. -/
structure Smpp34.Faithful (lib : Smpp34) : Prop where
  unpack_length : ∀ buffer, (lib.unpack2 buffer).1 = 0 →
    headerLength ≤ buffer.length
  unpack_commandId : ∀ buffer, (lib.unpack2 buffer).1 = 0 →
    (lib.unpack2 buffer).2.commandId = word buffer 4
  unpack_commandStatus : ∀ buffer, (lib.unpack2 buffer).1 = 0 →
    (lib.unpack2 buffer).2.commandStatus = word buffer 8
  unpack_sequenceNumber : ∀ buffer, (lib.unpack2 buffer).1 = 0 →
    (lib.unpack2 buffer).2.sequenceNumber = word buffer 12
  pack_length : ∀ pdu room, (lib.pack2 pdu room).1 = 0 →
    headerLength ≤ (lib.pack2 pdu room).2.length ∧
      (lib.pack2 pdu room).2.length ≤ room
  pack_commandId : ∀ pdu room, (lib.pack2 pdu room).1 = 0 →
    word (lib.pack2 pdu room).2 4 = pdu.commandId % 2 ^ 32
  pack_commandStatus : ∀ pdu room, (lib.pack2 pdu room).1 = 0 →
    word (lib.pack2 pdu room).2 8 = pdu.commandStatus % 2 ^ 32
  pack_sequenceNumber : ∀ pdu room, (lib.pack2 pdu room).1 = 0 →
    word (lib.pack2 pdu room).2 12 = pdu.sequenceNumber % 2 ^ 32

/-! ## A reference codec -/

namespace ReferenceCodec

/-- One octet. -/
def octet : Octets → Option (Nat × Octets)
  | [] => none
  | first :: rest => some (first.toNat, rest)

/-- A zero-terminated string. -/
def text (buffer : Octets) : Option (Octets × Octets) :=
  match buffer.dropWhile (· ≠ 0) with
  | [] => none
  | _ :: rest => some (cString buffer, rest)

/-- A counted string. -/
def counted (count : Nat) (buffer : Octets) : Option (Octets × Octets) :=
  if count ≤ buffer.length then
    some (buffer.take count, buffer.drop count)
  else none

/-- The optional parameters up to the end of the PDU, at most `fuel` many. -/
def optionalParameters : Nat → Octets → Option (List Tlv)
  | _, [] => some []
  | 0, _ => none
  | fuel + 1, buffer => do
      let (tag, buffer) ← counted 2 buffer
      let (length, buffer) ← counted 2 buffer
      let (value, buffer) ← counted (bigEndian length) buffer
      let rest ← optionalParameters fuel buffer
      if short : value.length < 2 ^ 16 then
        some ({ tag := bigEndian tag, length := value.length, octet := value,
                length_le := Nat.le_refl _, length_lt := short } :: rest)
      else none

/-- The structure of a PDU without a body. -/
def header (buffer : Octets) : Unpacked where
  commandId := word buffer 4
  commandStatus := word buffer 8
  sequenceNumber := word buffer 12
  sourceAddr := []
  dataCoding := 0
  smLength := 0
  shortMessage := []
  tlv := []
  smLength_le := Nat.le_refl _
  smLength_lt := by omega

/-- The body of a `DELIVER_SM`. -/
def deliverSm (buffer : Octets) : Option Unpacked := do
  let (_serviceType, rest) ← text (buffer.drop headerLength)
  let (_sourceAddrTon, rest) ← octet rest
  let (_sourceAddrNpi, rest) ← octet rest
  let (sourceAddr, rest) ← text rest
  let (_destAddrTon, rest) ← octet rest
  let (_destAddrNpi, rest) ← octet rest
  let (_destinationAddr, rest) ← text rest
  let (_esmClass, rest) ← octet rest
  let (_protocolId, rest) ← octet rest
  let (_priorityFlag, rest) ← octet rest
  let (_scheduleDeliveryTime, rest) ← text rest
  let (_validityPeriod, rest) ← text rest
  let (_registeredDelivery, rest) ← octet rest
  let (_replaceIfPresentFlag, rest) ← octet rest
  let (dataCoding, rest) ← octet rest
  let (_smDefaultMsgId, rest) ← octet rest
  let (smLength, rest) ← octet rest
  let (shortMessage, rest) ← counted smLength rest
  let tlv ← optionalParameters rest.length rest
  if short : shortMessage.length < 2 ^ 8 then
    some { header buffer with
      sourceAddr := sourceAddr, dataCoding := dataCoding,
      smLength := shortMessage.length, shortMessage := shortMessage,
      tlv := tlv, smLength_le := Nat.le_refl _, smLength_lt := short }
  else none

/-- Unpack a PDU. -/
def unpack2 (buffer : Octets) : Int × Unpacked :=
  if buffer.length < headerLength then (-1, header buffer)
  else if word buffer 4 = DELIVER_SM then
    match deliverSm buffer with
    | some unpacked =>
        (0, { unpacked with
          commandId := word buffer 4
          commandStatus := word buffer 8
          sequenceNumber := word buffer 12 })
    | none => (-1, header buffer)
  else (0, header buffer)

/-- The packed body of a structure. -/
def packBody : PduBody → Octets
  | .headerOnly => []
  | .bindTransceiver systemId password systemType interfaceVersion =>
      systemId ++ [0] ++ password ++ [0] ++ systemType ++ [0] ++
        [UInt8.ofNat interfaceVersion, 0, 0, 0]
  | .deliverSmResp rest => rest ++ [0]

/-- A packed PDU. -/
def packed (pdu : Pdu) : Octets :=
  wordOctets (headerLength + (packBody pdu.body).length) ++
    (wordOctets pdu.commandId ++ (wordOctets pdu.commandStatus ++
      (wordOctets pdu.sequenceNumber ++ packBody pdu.body)))

/-- Pack a structure into a buffer of the given size. -/
def pack2 (pdu : Pdu) (room : Nat) : Int × Octets :=
  if (packed pdu).length ≤ room then (0, packed pdu) else (-1, [])

/-- A `DELIVER_SM` as a server lays it out; `rest` holds its optional
parameters. -/
def deliverSmOctets (sequenceNumber : Nat) (sourceAddr : Octets)
    (dataCoding : Nat) (shortMessage rest : Octets) : Octets :=
  let body := [0, 1, 1] ++ sourceAddr ++ [0, 1, 1, 49, 49, 50, 0] ++
    [0, 0, 0, 0, 0, 0, 0, UInt8.ofNat dataCoding, 0,
      UInt8.ofNat shortMessage.length] ++ shortMessage ++ rest
  wordOctets (headerLength + body.length) ++ wordOctets DELIVER_SM ++
    wordOctets ESME_ROK ++ wordOctets sequenceNumber ++ body

/-- An optional parameter as a server lays it out. -/
def tlvOctets (tag : Nat) (value : Octets) : Octets :=
  [UInt8.ofNat (tag / 256), UInt8.ofNat tag, UInt8.ofNat (value.length / 256),
    UInt8.ofNat value.length] ++ value

end ReferenceCodec

/-- SMPP 3.4 as far as the gateway speaks it. -/
def referenceCodec : Smpp34 where
  unpack2 := ReferenceCodec.unpack2
  pack2 := ReferenceCodec.pack2

theorem bigEndian_wordOctets (value : Nat) :
    bigEndian (wordOctets value) = value % 2 ^ 32 := by
  simp only [bigEndian, wordOctets, List.foldl_cons, List.foldl_nil,
    UInt8.toNat_ofNat']
  omega

/-- The word at the offset at which its octets were written. -/
theorem word_append_wordOctets (before after : Octets) (value : Nat) :
    word (before ++ (wordOctets value ++ after)) before.length =
      value % 2 ^ 32 := by
  unfold word
  rw [List.drop_left, List.take_append_of_le_length (by simp),
    List.take_of_length_le (by simp), bigEndian_wordOctets]

namespace ReferenceCodec

theorem unpack2_success
    {buffer : Octets}
    (success : (unpack2 buffer).1 = 0) :
    headerLength ≤ buffer.length ∧
      (unpack2 buffer).2.commandId = word buffer 4 ∧
      (unpack2 buffer).2.commandStatus = word buffer 8 ∧
      (unpack2 buffer).2.sequenceNumber = word buffer 12 := by
  unfold unpack2 at success ⊢
  split at success
  next short => simp at success
  next long =>
    refine ⟨by omega, ?_⟩
    rw [if_neg long]
    split
    next deliver =>
      cases body : deliverSm buffer with
      | none => simp [deliver, body] at success
      | some unpacked => simp
    next other => simp [header]

theorem pack2_success
    {pdu : Pdu}
    {room : Nat}
    (success : (pack2 pdu room).1 = 0) :
    headerLength ≤ (pack2 pdu room).2.length ∧
      (pack2 pdu room).2.length ≤ room ∧
      word (pack2 pdu room).2 4 = pdu.commandId % 2 ^ 32 ∧
      word (pack2 pdu room).2 8 = pdu.commandStatus % 2 ^ 32 ∧
      word (pack2 pdu room).2 12 = pdu.sequenceNumber % 2 ^ 32 := by
  unfold pack2 at success ⊢
  split at success
  next fits =>
    rw [if_pos fits]
    have long : headerLength ≤ (packed pdu).length := by
      simp only [packed, headerLength, List.length_append,
        length_wordOctets]
      omega
    refine ⟨long, fits, ?_, ?_, ?_⟩ <;> unfold packed
    · exact word_append_wordOctets (wordOctets _) _ _
    · rw [← List.append_assoc]
      exact word_append_wordOctets (wordOctets _ ++ wordOctets _) _ _
    · rw [← List.append_assoc, ← List.append_assoc]
      exact word_append_wordOctets
        (wordOctets _ ++ wordOctets _ ++ wordOctets _) _ _
  next tooLong => simp at success

end ReferenceCodec

theorem referenceCodec_faithful : referenceCodec.Faithful where
  unpack_length _ success :=
    (ReferenceCodec.unpack2_success success).1
  unpack_commandId _ success :=
    (ReferenceCodec.unpack2_success success).2.1
  unpack_commandStatus _ success :=
    (ReferenceCodec.unpack2_success success).2.2.1
  unpack_sequenceNumber _ success :=
    (ReferenceCodec.unpack2_success success).2.2.2
  pack_length _ _ success :=
    ⟨(ReferenceCodec.pack2_success success).1,
      (ReferenceCodec.pack2_success success).2.1⟩
  pack_commandId _ _ success :=
    (ReferenceCodec.pack2_success success).2.2.1
  pack_commandStatus _ _ success :=
    (ReferenceCodec.pack2_success success).2.2.2.1
  pack_sequenceNumber _ _ success :=
    (ReferenceCodec.pack2_success success).2.2.2.2

end Sms112
