import Sms112.Handler.Text
import Sms112.Model.Invite

/-!
# The arrays of the INVITE

The strings of the INVITE are built in arrays of a fixed size by appends that
know nothing of the size. An array holds what is appended exactly when the
lengths of all sources together leave room for a zero octet.
-/

namespace Sms112

variable (conf : SConf)

/-- An array of zero octets and the memory behind it. -/
def clearedArray (size : Nat) (behind : Octets) : PjStr :=
  pjStrset2 (List.replicate size 0 ++ behind)

/-- An append has left the memory behind the array and its last octet as they
were. -/
structure Inside (size : Nat) (behind : Octets) (str : PjStr) : Prop where
  untouched : str.memory.drop size = behind
  terminated : str.memory[size - 1]? = some 0

/-- Every append of a list stays inside the array, and the length that is
recomputed at the end is the one appended. -/
structure Contained (size : Nat) (sources : List (Option Octets)) : Prop where
  inside : ∀ behind done, done <+: sources →
    Inside size behind (done.foldl pjStrcat2 (clearedArray size behind))
  recomputed : ∀ behind,
    let built := sources.foldl pjStrcat2 (clearedArray size behind)
    pjAnsiStrlen built.ptr = built.slen

/-- The three strings of an INVITE stay inside their arrays. -/
structure InviteContained (text geodata : Option Octets) : Prop where
  body : Contained bodySize (bodyAppends conf text geodata)
  geolocation : Contained headerSize (geolocationAppends conf)
  contentType : Contained headerSize (contentTypeAppends conf)

/-! ## One array -/

variable {size : Nat}

/-- What the memory holds after the appends of a list. -/
theorem foldl_clearedArray
    (positive : 0 < size)
    (behind : Octets)
    (sources : List (Option Octets)) :
    sources.foldl pjStrcat2 (clearedArray size behind) =
      ⟨some (pjAnsiStrs sources ++
          (List.replicate size 0 ++ behind).drop (pjAnsiStrs sources).length),
        (pjAnsiStrs sources).length⟩ := by
  obtain ⟨less, rfl⟩ : ∃ less, size = less + 1 := ⟨size - 1, by omega⟩
  have cleared : clearedArray (less + 1) behind =
      ⟨some ([] ++ (List.replicate (less + 1) 0 ++ behind)),
        ([] : Octets).length⟩ := by
    simp [clearedArray, pjStrset2, pjAnsiStrlen, pjAnsiStr, cString,
      List.replicate_succ]
  rw [cleared, foldl_pjStrcat2, List.nil_append]

/-- Texts that leave room leave zero octets behind them. -/
theorem foldl_clearedArray_of_lt
    {sources : List (Option Octets)}
    (room : (pjAnsiStrs sources).length < size)
    (behind : Octets) :
    sources.foldl pjStrcat2 (clearedArray size behind) =
      ⟨some (pjAnsiStrs sources ++
          List.replicate (size - (pjAnsiStrs sources).length) 0 ++ behind),
        (pjAnsiStrs sources).length⟩ := by
  rw [foldl_clearedArray (by omega)]
  simp only [List.drop_append, List.drop_replicate, List.length_replicate,
    List.append_assoc]
  rw [Nat.sub_eq_zero_of_le room.le, List.drop_zero]

theorem pjAnsiStrs_length_le
    {done sources : List (Option Octets)}
    (isPrefix : done <+: sources) :
    (pjAnsiStrs done).length ≤ (pjAnsiStrs sources).length := by
  obtain ⟨later, rfl⟩ := isPrefix
  simp [pjAnsiStrs]

theorem inside_of_lt
    {sources : List (Option Octets)}
    (room : (pjAnsiStrs sources).length < size)
    (behind : Octets) :
    Inside size behind
      (sources.foldl pjStrcat2 (clearedArray size behind)) := by
  rw [foldl_clearedArray_of_lt room]
  have length : (pjAnsiStrs sources ++
      List.replicate (size - (pjAnsiStrs sources).length) 0).length =
        size := by
    rw [List.length_append, List.length_replicate]
    omega
  constructor
  · rw [PjStr.memory, Option.getD_some, List.drop_append_of_le_length
      (by omega), List.drop_of_length_le (by omega), List.nil_append]
  · rw [PjStr.memory, Option.getD_some,
      List.getElem?_append_left (by omega),
      List.getElem?_append_right (by omega),
      List.getElem?_replicate_of_lt (by omega)]

theorem contained_of_lt
    {sources : List (Option Octets)}
    (room : (pjAnsiStrs sources).length < size) :
    Contained size sources where
  inside behind done isPrefix :=
    inside_of_lt ((pjAnsiStrs_length_le isPrefix).trans_lt room) behind
  recomputed behind := by
    rw [foldl_clearedArray_of_lt room]
    obtain ⟨zeros, more⟩ : ∃ zeros,
        size - (pjAnsiStrs sources).length = zeros + 1 :=
      ⟨size - (pjAnsiStrs sources).length - 1, by omega⟩
    have clear := (cString_eq_self_iff _).mpr (not_mem_pjAnsiStrs sources)
    simp only [more, List.replicate_succ, pjAnsiStrlen, pjAnsiStr,
      Option.getD_some, List.append_assoc, List.cons_append,
      cString_append_zero, clear]

/-- A text that fills the array writes a character on its last octet. -/
theorem lt_of_contained
    (positive : 0 < size)
    {sources : List (Option Octets)}
    (contained : Contained size sources) :
    (pjAnsiStrs sources).length < size := by
  by_contra tooLong
  have last := (contained.inside [] sources List.prefix_rfl).terminated
  rw [foldl_clearedArray positive, PjStr.memory, Option.getD_some,
    List.getElem?_append_left (by omega)] at last
  exact not_mem_pjAnsiStrs sources (List.mem_of_getElem? last)

theorem contained_iff
    (positive : 0 < size)
    (sources : List (Option Octets)) :
    Contained size sources ↔ (pjAnsiStrs sources).length < size :=
  ⟨lt_of_contained positive, contained_of_lt⟩

/-! ## The three arrays -/

theorem length_pjAnsiStrs_append (first second : List (Option Octets)) :
    (pjAnsiStrs (first ++ second)).length =
      (pjAnsiStrs first).length + (pjAnsiStrs second).length := by
  simp [pjAnsiStrs]

theorem length_pjAnsiStrs_cons
    (source : Option Octets)
    (sources : List (Option Octets)) :
    (pjAnsiStrs (source :: sources)).length =
      pjAnsiStrlen source + (pjAnsiStrs sources).length := by
  simp [pjAnsiStrs, pjAnsiStrlen]

/-- The fixed text of the body, four boundaries and the two arguments. -/
theorem length_bodyAppends (text geodata : Option Octets) :
    (pjAnsiStrs (bodyAppends conf text geodata)).length =
      415 + 4 * pjAnsiStrlen (some conf.boundary) +
        pjAnsiStrlen geodata + pjAnsiStrlen text := by
  have sdp : (pjAnsiStrs sdpAppends).length = 155 := by decide +kernel
  have xml : (pjAnsiStrs xmlAppends).length = 117 := by decide +kernel
  have headers : (pjAnsiStrs textAppends).length = 121 := by decide +kernel
  have dashes : pjAnsiStrlen (literal "--") = 2 := by decide
  have line : pjAnsiStrlen (literal "\r\n") = 2 := by decide
  have opens : pjAnsiStrlen (literal "\r\n--") = 4 := by decide
  have closes : pjAnsiStrlen (literal "--\r\n") = 4 := by decide
  have nothing : (pjAnsiStrs []).length = 0 := List.length_nil
  simp only [bodyAppends, length_pjAnsiStrs_append, length_pjAnsiStrs_cons,
    sdp, xml, headers, dashes, line, opens, closes, nothing]
  omega

theorem length_geolocationAppends :
    (pjAnsiStrs (geolocationAppends conf)).length =
      20 + pjAnsiStrlen (some conf.geolocationCId) := by
  have front : pjAnsiStrlen (literal "<cid:") = 5 := by decide
  have back : pjAnsiStrlen (literal "@172.27.40.129>") = 15 := by decide
  have nothing : (pjAnsiStrs []).length = 0 := List.length_nil
  simp only [geolocationAppends, length_pjAnsiStrs_cons, front, back, nothing]
  omega

theorem length_contentTypeAppends :
    (pjAnsiStrs (contentTypeAppends conf)).length =
      16 + pjAnsiStrlen (some conf.boundary) := by
  have front : pjAnsiStrlen (literal "mixed; boundary=") = 16 := by decide
  have nothing : (pjAnsiStrs []).length = 0 := List.length_nil
  simp only [contentTypeAppends, length_pjAnsiStrs_cons, front, nothing]
  omega

/-- The arrays of an INVITE hold what is appended to them exactly when the
lengths of the text, the geodata, the boundary and the content id leave room
for a zero octet in each. -/
theorem inviteContained_iff (text geodata : Option Octets) :
    InviteContained conf text geodata ↔
      415 + 4 * pjAnsiStrlen (some conf.boundary) +
          pjAnsiStrlen geodata + pjAnsiStrlen text < bodySize ∧
        20 + pjAnsiStrlen (some conf.geolocationCId) < headerSize ∧
        16 + pjAnsiStrlen (some conf.boundary) < headerSize := by
  have bodyRoom := contained_iff (show 0 < bodySize by decide)
    (bodyAppends conf text geodata)
  have geolocationRoom := contained_iff (show 0 < headerSize by decide)
    (geolocationAppends conf)
  have contentTypeRoom := contained_iff (show 0 < headerSize by decide)
    (contentTypeAppends conf)
  rw [length_bodyAppends] at bodyRoom
  rw [length_geolocationAppends] at geolocationRoom
  rw [length_contentTypeAppends] at contentTypeRoom
  rw [← bodyRoom, ← geolocationRoom, ← contentTypeRoom]
  constructor
  · rintro ⟨body, geolocation, contentType⟩
    exact ⟨body, geolocation, contentType⟩
  · rintro ⟨body, geolocation, contentType⟩
    exact ⟨body, geolocation, contentType⟩

/-! ## A message that overruns the body -/

/-- A presence element as the geodata server can return it. -/
def presence (element : Octets) : Octets :=
  ascii "<presence>" ++ element ++ ascii "</presence>"

/-- A text is found where its first character occurs for the first time. -/
theorem find_append
    {head : UInt8}
    {front : Octets}
    (absent : head ∉ front)
    (needle : Octets) :
    find (head :: needle) (front ++ head :: needle) = some front.length := by
  induction front with
  | nil => simp [find]
  | cons octet front inductionHypothesis =>
      rw [List.mem_cons, not_or] at absent
      have elsewhere : (head :: needle).isPrefixOf
          (octet :: (front ++ head :: needle)) = false := by
        simp [List.isPrefixOf, absent.1]
      rw [List.cons_append, find, elsewhere,
        inductionHypothesis absent.2]
      rfl

theorem extractGeodata_presence
    {element : Octets}
    (absent : 60 ∉ element) :
    extractGeodata (presence element) = some (presence element) := by
  have start : findFrom (ascii "<presence") (presence element) 0 =
      some 0 := by
    have name : ascii "<presence>" = ascii "<presence" ++ [62] := by decide
    have nonempty : ∃ rest, ascii "<presence" = 60 :: rest :=
      ⟨_, rfl⟩
    obtain ⟨rest, equal⟩ := nonempty
    rw [findFrom, List.drop_zero, presence, name, equal]
    simp [find]
  have stop : findFrom (ascii "</presence>") (presence element) 0 =
      some (10 + element.length) := by
    have name : ascii "<presence>" = 60 :: ascii "presence>" := by decide
    have closing : ascii "</presence>" = 60 :: ascii "/presence>" := by
      decide
    have first : (ascii "</presence>").isPrefixOf
        (60 :: (ascii "presence>" ++ element ++ ascii "</presence>")) =
          false := by
      rfl
    have later : 60 ∉ ascii "presence>" ++ element := by
      rw [List.mem_append, not_or]
      exact ⟨by decide, absent⟩
    have found := find_append later (ascii "/presence>")
    rw [← closing] at found
    have length : (ascii "presence>").length = 9 := by decide
    rw [findFrom, List.drop_zero, presence, name, List.cons_append,
      List.cons_append, find, first, found]
    simp [length]
    omega
  have length : (presence element).length = 21 + element.length := by
    have front : (ascii "<presence>").length = 10 := by decide
    have back : (ascii "</presence>").length = 11 := by decide
    simp only [presence, List.length_append, front, back]
    omega
  rw [extractGeodata, start]
  dsimp only
  rw [stop]
  dsimp only
  rw [List.drop_zero, List.take_of_length_le (by omega)]

/-- A message that is delivered takes the geodata that were found to the SIP
client. -/
theorem smppDeliverSmOper_sipSendReq
    {conf : SConf}
    {lib : Smpp34}
    {thread : Thread}
    {oracle : Op → Choice}
    {buf found shown : Octets}
    {dataLen : Int}
    {req : Unpacked}
    (accepts : lib.unpack2 (buf.take dataLen.toNat) = (0, req))
    (converted : ∀ garbage state, ∃ address later,
      (convertText req (selectBody req garbage).1 (selectBody req garbage).2
          garbage.dstLen).eval (exec thread) oracle state =
        (some (some address), later) ∧
      cString (later.block address) = shown)
    (looked : geodataFound conf oracle req.sourceAddr = some found)
    (bufSize seqNum : Nat)
    (state : State) :
    ∃ result, .sipSendReq req.sourceAddr (some shown) (cString found) result ∈
      newEvents state
        ((smppDeliverSmOper conf lib buf dataLen bufSize seqNum).eval
          (exec thread) oracle state).2 := by
  obtain ⟨address, later, evaluated, block⟩ :=
    converted (oracle .uninitialised).garbage (state.linkTlv req.tlv).2
  obtain ⟨log, -, delivers⟩ := deliverAndReport_eval conf oracle thread
    req.sourceAddr (some address) later
  rw [Option.map_some, block] at delivers
  have responds := eval_quiet thread oracle
    ((respond_transmission lib
      (deliverSmResp req (oracle .uninitialised).garbage) bufSize).mono
        (Op.isTransmission.quiet deliveryEvent fun _ _ _ _ => rfl))
    ((deliverAndReport conf req.sourceAddr (some address)).eval
      (exec thread) oracle later).2
  have whole := smppDeliverSmOper_observes conf thread lib rfl accepts
    evaluated bufSize seqNum delivers responds
  refine ⟨sipAnswer conf oracle req.sourceAddr (some shown) (cString found),
    ?_⟩
  apply (whole.mem_newEvents_iff deliveryEvent_selects rfl).mpr
  rw [List.nil_append, sipSendReq_mem_deliveryEvents]
  exact ⟨found, looked, rfl, rfl, rfl, rfl⟩

/-- The content of an element that is longer than `mcBody`. -/
def longElement : Octets :=
  List.replicate 4096 97

theorem not_mem_longElement
    {octet : UInt8}
    (different : octet ≠ 97) :
    octet ∉ longElement := by
  unfold longElement
  rw [List.mem_replicate]
  exact fun member => different member.2

/-- An environment in which the geodata server answers with it. -/
def longAnswer : Op → Choice
  | .curl .. => { chunks := [presence longElement] }
  | operation => iconvConverts operation

/-- The body of this message's INVITE is written past the end of `mcBody`. -/
theorem longAnswer_overruns :
    ∃ caller text geodata result,
      .sipSendReq caller text geodata result ∈
          newEvents {}
            ((smppDeliverSmOper {} referenceCodec cyrillicDeliverSm
                cyrillicDeliverSm.length localBufferSize 7).eval
              (exec .receiver) longAnswer {}).2 ∧
        ¬InviteContained {} text (some geodata) := by
  have converts : ConvertsUcs2 longAnswer :=
    ⟨iconvConverts_convertsUcs2.opens, iconvConverts_convertsUcs2.ret,
      iconvConverts_convertsUcs2.inBufLeft, iconvConverts_convertsUcs2.output⟩
  have message : MessageText (referenceCodec.unpack2 cyrillicDeliverSm).2
      (utf8Octets ['П', 'о']) :=
    .ucs2 (by decide +kernel) ['П', 'о'] (by simp [Basic])
      (by decide +kernel)
  obtain ⟨shown, -, converted⟩ := convertText_shows .receiver converts
    (by decide +kernel) message
  have looked : geodataFound {} longAnswer
      (referenceCodec.unpack2 cyrillicDeliverSm).2.sourceAddr =
        some (presence longElement) := by
    unfold geodataFound
    rw [if_pos ⟨by decide, rfl⟩, longAnswer, curlWriteResult,
      List.foldl_cons, List.foldl_nil, List.nil_append]
    exact extractGeodata_presence (not_mem_longElement (by decide))
  have accepts : referenceCodec.unpack2
      (cyrillicDeliverSm.take (Int.toNat cyrillicDeliverSm.length)) =
        (0, (referenceCodec.unpack2 cyrillicDeliverSm).2) :=
    Prod.ext (by decide +kernel) rfl
  obtain ⟨result, handed⟩ := smppDeliverSmOper_sipSendReq accepts converted
    looked localBufferSize 7 {}
  refine ⟨_, _, _, _, handed, ?_⟩
  intro contained
  have room := lt_of_contained (by decide) contained.body
  have clear : 0 ∉ presence longElement := by
    simp only [presence, List.mem_append, not_or]
    exact ⟨⟨by decide, not_mem_longElement (by decide)⟩, by decide⟩
  have whole : cString (presence longElement) = presence longElement :=
    (cString_eq_self_iff _).mpr clear
  have length : (presence longElement).length = 4117 := by
    have front : (ascii "<presence>").length = 10 := by decide
    have back : (ascii "</presence>").length = 11 := by decide
    have middle : longElement.length = 4096 := List.length_replicate
    rw [presence, List.length_append, List.length_append, front, back, middle]
  have long : pjAnsiStrlen (some (cString (presence longElement))) = 4117 := by
    rw [whole, pjAnsiStrlen, pjAnsiStr, Option.getD_some, whole, length]
  rw [length_bodyAppends, long, bodySize] at room
  omega

end Sms112
