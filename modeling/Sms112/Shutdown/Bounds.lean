import Sms112.Connection.Runs
import Sms112.Resumption.Termination

/-!
# How long the programs of the threads are

No function of the gateway loops over what it is given, so each of them
performs a bounded number of operations, whatever their results are. The loops
are those of the two threads, which start their programs over.
-/

namespace Sms112

open Resumption Program

variable {α : Type}

/-! ## The connection -/

/-- A recorded routine takes two operations more than its body. -/
theorem routine_within
    {body : Prog α}
    {bound : Nat}
    (inside : body.Within bound)
    (routine : Routine) :
    (within routine body).Within (bound + 2) := by
  refine .step fun _ => inside.bind (Nat.le_succ bound) fun _ => ?_
  rw [Nat.succ_sub (Nat.le_refl bound), Nat.sub_self]
  exact .step fun _ => .ret _

/-- The socket is opened and connected, its flags are read, and then the flag
of the connection is set. -/
theorem tcpConnect_within : tcpConnect.Within 6 := by
  have body : tcpConnectBody.Within 4 := by
    refine .step fun opened => ?_
    dsimp only
    split
    · exact Nat.zero_le _
    · refine .step fun _ => .step fun outcome => ?_
      split
      · exact Nat.zero_le _
      · exact .step fun _ => .ret _
  exact routine_within body _

/-- At most the descriptor is read, closed and forgotten. -/
theorem tcpDisconn_within : tcpDisconn.Within 7 := by
  have body : tcpDisconnBody.Within 5 := by
    refine .step fun iSock => ?_
    split
    · refine .step fun _ => .step fun closed => ?_
      split
      · exact .step fun _ => .step fun _ => .ret _
      · exact Nat.zero_le _
    · exact Nat.zero_le _
  exact routine_within body _

/-- A failed `send` clears the flag of the connection. -/
theorem tcpSend_within (data : Octets) : (tcpSend data).Within 2 := by
  refine .step fun outcome => ?_
  dsimp only
  split
  · exact Nat.zero_le _
  · exact .step fun _ => .ret _

theorem tcpRecv_within (size : Nat) (into : Option (Option Nat)) :
    (tcpRecv size into).Within 1 :=
  .step fun _ => .ret _

theorem tcpPeek_within (size : Nat) : (tcpPeek size).Within 1 :=
  .step fun _ => .ret _

/-! ## Requests -/

/-- A deadline takes one reading of the clock. -/
theorem makeTimespecTimeout_within (timeSpec : Timespec)
    (sec addUSec : Nat) :
    (makeTimespecTimeout timeSpec sec addUSec).Within 1 := by
  refine .step fun timeVal => ?_
  split
  · split <;> exact .ret _
  · exact .ret _

/-- A request is registered and sent, and waited for just once. -/
theorem smppSend_within (data : Octets) (seqNum : Nat) (reqData : ReqPtr) :
    (smppSend data seqNum reqData).Within 9 := by
  have body : (smppSendBody data seqNum reqData).Within 7 := by
    refine .step fun added => ?_
    split
    · exact Nat.zero_le _
    · refine (tcpSend_within data).bind (by decide) fun sent => ?_
      split
      · exact Nat.zero_le _
      · refine .step fun garbage => (makeTimespecTimeout_within _ _ _).bind
          (by decide) fun _ => .step fun _ => .step fun dataLen => ?_
        split <;> exact .ret _
  exact .step fun _ => body.bind (by decide) fun _ => .step fun _ => .ret _

/-- A response is read, recorded and unpacked, and its parameters are released
at most once. -/
theorem readResponse_within (lib : Smpp34) (request : Pdu) (respId : Nat)
    (freesTlv : Bool) (reqData : ReqPtr) :
    (readResponse lib request respId freesTlv reqData).Within 4 := by
  refine .step fun buffer => .step fun _ => .step fun nodes => ?_
  dsimp only
  split
  · exact Nat.zero_le _
  · cases freesTlv
    · simp only [Bool.false_eq_true, if_false]
      split <;> exact Nat.zero_le _
    · simp only [if_true]
      refine .step fun _ => ?_
      split <;> exact .ret _

/-- What connecting, unbinding and checking the link have in common: one
request with one wait. -/
theorem exchange_within (lib : Smpp34) (request : Pdu) (respId : Nat)
    (freesTlv : Bool) :
    (exchange lib request respId freesTlv).Within 15 := by
  unfold exchange
  dsimp only
  split
  · exact Nat.zero_le _
  · refine .step fun reqData => (smppSend_within _ _ _).bind (by decide)
      fun iFnRes => ?_
    split
    · exact .step fun _ => Nat.zero_le _
    · exact (readResponse_within _ _ _ _ _).bind (by decide) fun _ =>
        .step fun _ => .ret _

variable (conf : SConf) (lib : Smpp34)

/-- Binding is one exchange, with a number before it and the flag after it. -/
theorem smppConnect_within : (smppConnect conf lib).Within 19 := by
  refine routine_within (.step fun seqNum => (exchange_within lib _ _ _).bind
    (by decide) fun iRetVal => ?_ : Within _ 17) _
  dsimp only
  split
  · exact .step fun _ => .ret _
  · exact Nat.zero_le _

theorem smppDisconn_within : (smppDisconn lib).Within 19 :=
  routine_within (.step fun _ => .step fun _ => exchange_within lib _ _ _) _

/-- Checking the link is one exchange. -/
theorem smppEnqLink_within : (smppEnqLink lib).Within 16 :=
  .step fun _ => exchange_within lib _ _ _

/-! ## Messages -/

/-- Whatever the coding, a text is converted in one piece. -/
theorem convertText_within (req : Unpacked) (srcStr : Octets)
    (srcLen dstLen : Nat) :
    (convertText req srcStr srcLen dstLen).Within 5 := by
  have converts : (smsIconv (ascii "UCS-2BE") (ascii "UTF-8") srcStr srcLen
      ⟨none, dstLen⟩ false false).Within 4 := by
    refine .step fun outBuf => .step fun opened => ?_
    split
    · exact Nat.zero_le _
    · refine .step fun converted => .step fun _ => ?_
      dsimp only
      split
      · exact .ret _
      · split
        · exact .ret _
        · split <;> exact .ret _
  unfold convertText
  split
  · refine converts.bind (by decide) fun outcome => ?_
    dsimp only
    split
    · split
      · exact .step fun _ => .ret _
      · exact Nat.zero_le _
    · exact Nat.zero_le _
  · split
    · exact .step fun _ => .step fun _ =>
        .step fun _ => Nat.zero_le _
    · exact Nat.zero_le _

theorem readText_within (printData : Option Nat) :
    (readText printData).Within 1 := by
  unfold readText
  split
  · exact .step fun _ => .ret _
  · exact Nat.zero_le _

theorem deletePrintData_within (printData : Option Nat) :
    (deletePrintData printData).Within 1 := by
  unfold deletePrintData
  split
  · exact .step fun _ => .ret _
  · exact Nat.zero_le _

theorem curlPerfRequest_within (url : Octets)
    (body contentType : Option Octets) :
    (curlPerfRequest url body contentType).Within 1 :=
  .step fun _ => .ret _

/-- A look-up prints its URL and makes one transfer. -/
theorem geodataGet_within (caller : Octets) :
    (geodataGet conf (some caller) []).Within 2 := by
  refine .step fun printed => ?_
  dsimp only
  split
  · refine (curlPerfRequest_within _ _ _).bind (by decide) fun outcome => ?_
    split
    · split <;> exact .ret _
    · exact .ret _
  · exact Nat.zero_le _

/-- A SIP request is one operation here; in the process it is a dialog. -/
theorem sipSendReq_within (caller : Octets) (text : Option Octets)
    (geodata : Octets) :
    (sipSendReq conf caller text geodata).Within 2 := by
  refine .step fun host => ?_
  split
  · exact Nat.zero_le _
  · split
    · exact Nat.zero_le _
    · exact .step fun _ => .ret _

/-- A delivery reads the text, makes one request and notes it. -/
theorem deliver_within (caller : Octets) (printData : Option Nat)
    (geodataResult : Int) (geodata : Octets) :
    (deliver conf caller printData geodataResult geodata).Within 5 := by
  unfold deliver
  split
  · refine (readText_within printData).bind (by decide) fun text =>
      (sipSendReq_within conf _ _ _).bind (by decide) fun iFnRes =>
        .step fun _ => ?_
    unfold sipResult
    split
    · exact Nat.zero_le _
    · exact .step fun _ => .ret _
  · exact Nat.zero_le _

/-- A report needs the time as text, and makes one transfer. -/
theorem sendReport_within (phoneNumber : Octets) (message : Option Octets)
    (resultString resultXML : Octets) :
    (sendReport conf phoneNumber message resultString resultXML).Within
      5 := by
  refine .step fun _ => .step fun tTime => ?_
  split
  · exact Nat.zero_le _
  · refine .step fun converted => ?_
    split
    · exact Nat.zero_le _
    · refine .step fun printed => ?_
      dsimp only
      split
      · exact (curlPerfRequest_within _ _ _).bind (by decide)
          fun _ => Nat.zero_le _
      · exact Nat.zero_le _

/-- A message is located, delivered and reported once. -/
theorem deliverAndReport_within (caller : Octets)
    (printData : Option Nat) :
    (deliverAndReport conf caller printData).Within 13 :=
  (geodataGet_within conf caller).bind (by decide) fun found =>
    (deliver_within conf _ _ _ _).bind (by decide) fun result =>
      (readText_within printData).bind (by decide) fun text =>
        (sendReport_within conf _ _ _ _).bind (by decide)
          fun _ => Nat.zero_le _

/-- A response is sent at most once. -/
theorem respond_within (response : Pdu) (bufSize : Nat) :
    (respond lib response bufSize).Within 2 := by
  unfold respond
  dsimp only
  split
  · exact Nat.zero_le _
  · exact tcpSend_within _

/-- A message takes its text, the delivery, the report and the response. -/
theorem smppDeliverSmOper_within (buf : Octets) (dataLen : Int)
    (bufSize seqNum : Nat) :
    (smppDeliverSmOper conf lib buf dataLen bufSize seqNum).Within 23 := by
  refine .step fun garbage => .step fun _ => ?_
  dsimp only
  split
  · exact Nat.zero_le _
  · refine (convertText_within _ _ _ _).bind (by decide) fun converted => ?_
    cases converted with
    | none => exact Nat.zero_le _
    | some printData =>
        exact (deliverAndReport_within conf _ _).bind (by decide) fun _ =>
          (respond_within lib _ _).bind (by decide) fun _ =>
            (deletePrintData_within printData).bind (by decide)
              fun _ => Nat.zero_le _

theorem smppUnbindOper_within (buf : Octets) (dataLen : Int)
    (bufSize seqNum : Nat) :
    (smppUnbindOper lib buf dataLen bufSize seqNum).Within 5 := by
  refine routine_within (.step fun _ => ?_ : Within _ 3) _
  dsimp only
  split
  · exact Nat.zero_le _
  · exact respond_within lib _ _

/-! ## The receiver -/

/-- A request that is received as a whole is handled by one branch of the
switch. -/
theorem smppOperReq_within (header : SPDUHdr) :
    (smppOperReq conf lib header).Within 25 := by
  unfold smppOperReq
  split
  · exact Nat.zero_le _
  · refine (tcpRecv_within _ _).bind (by decide) fun received => ?_
    dsimp only
    split
    · exact Nat.zero_le _
    · refine .step fun _ => ?_
      have switch (buf : Octets) :
          (operReqSwitch conf lib header buf).Within 23 := by
        unfold operReqSwitch
        split
        · exact smppDeliverSmOper_within conf lib _ _ _ _
        · split
          · exact (smppUnbindOper_within lib _ _ _ _).mono (by decide)
          · exact Nat.zero_le _
      exact (switch _).bind (by decide) fun _ => Nat.zero_le _

/-- A response is handed to the request that waits for it, if one does. -/
theorem operResp_within (header : SPDUHdr) :
    (operResp header).Within 8 := by
  refine .step fun found => ?_
  match found with
  | none => exact Nat.zero_le _
  | some reqData =>
      refine .step fun buf => .step fun _ => .step fun buf =>
        (tcpRecv_within _ _).bind (by decide) fun received => ?_
      dsimp only
      split
      · exact .step fun _ => .step fun _ => .step fun _ => .ret _
      · exact .step fun _ => Nat.zero_le _

theorem smppHandler_within : (smppHandler conf lib).Within 28 := by
  refine routine_within ((tcpPeek_within _).bind (by decide)
    fun peeked => ?_ : Within _ 26) _
  dsimp only
  split
  · exact Nat.zero_le _
  · split
    · exact (operResp_within _).mono (by decide)
    · exact smppOperReq_within conf lib _

/-- One round of the receiver: a look at `g_iStop`, a poll and at most one
PDU. -/
theorem msgReceiver_within : (msgReceiver conf lib).Within 32 := by
  refine .step fun created => ?_
  split
  · exact Nat.zero_le _
  · refine .step fun iStop => ?_
    split
    · exact Nat.zero_le _
    · refine .step fun fd => .step fun pollIn => ?_
      dsimp only
      split
      · exact (smppHandler_within conf lib).bind (by decide)
          fun _ => Nat.zero_le _
      · exact Nat.zero_le _

/-! ## The controller -/

/-- The end of `main`: unbinding and disconnecting. -/
theorem finish_within : (finish lib).Within 27 :=
  .step fun _ => (smppDisconn_within lib).bind (by decide) fun _ =>
    tcpDisconn_within.bind (by decide) fun _ => Nat.zero_le _

theorem startPing_within : (startPing conf).Within 4 := by
  refine .step fun _ => .step fun iFnRes => ?_
  split
  · exact Nat.zero_le _
  · exact .step fun garbage => (makeTimespecTimeout_within _ _ _).bind
      (by decide) fun _ => Nat.zero_le _

theorem doTcpConnection_within (soTS : Timespec) :
    (doTcpConnection conf lib soTS).Within 25 := by
  refine tcpConnect_within.bind (by decide) fun iFnRes => ?_
  split
  · exact Nat.zero_le _
  · exact (smppConnect_within conf lib).bind (by decide)
      fun _ => Nat.zero_le _

/-- One round of the ping loop: the worst is a link that does not answer, which
is unbound, disconnected, connected and bound again. -/
theorem doSmppPing_within (soTS : Timespec) :
    (doSmppPing conf lib soTS).Within 71 := by
  have recovers : (recoverConnection conf lib soTS).Within 51 :=
    (smppDisconn_within lib).bind (by decide) fun _ =>
      tcpDisconn_within.bind (by decide)
        fun _ => doTcpConnection_within conf lib soTS
  refine .step fun iStop => ?_
  split
  · exact Nat.zero_le _
  · refine .step fun iFnRes => ?_
    split
    · exact Nat.zero_le _
    · refine .step fun tcpIsConnected => ?_
      split
      · exact (doTcpConnection_within conf lib soTS).mono (by decide)
      · refine .step fun smppIsConnected => ?_
        split
        · exact (smppConnect_within conf lib).bind (by decide)
            fun _ => Nat.zero_le _
        · refine (smppEnqLink_within lib).bind (by decide) fun iFnRes => ?_
          split
          · exact Nat.zero_le _
          · exact recovers

/-- `main` connects, creates the receiver and binds. -/
theorem main_within : (main conf lib).Within 33 := by
  refine tcpConnect_within.bind (by decide) fun iFnRes => ?_
  split
  · exact Nat.zero_le _
  · refine .step fun created => ?_
    split
    · exact tcpDisconn_within.bind (by decide) fun _ => Nat.zero_le _
    · refine (smppConnect_within conf lib).bind (by decide)
        fun iFnRes => ?_
      split
      · exact tcpDisconn_within.bind (by decide) fun _ => Nat.zero_le _
      · refine .step fun created => ?_
        split <;> exact Nat.zero_le _

end Sms112
