import IpkChat.Udp.Session
import IpkChat.Udp.Codec

namespace IpkChat.Udp

/-! What the UDP client sends: per wake at most one CONFIRM and one message, over whole runs. -/

/-- The datagrams `sendConfirmMsg` lays out: three bytes of type 0. -/
def isConfirm (bytes : Bytes) : Bool :=
  bytes.length == 3 && bytes.headD 0 == ProtocolMsgType.mConfirm.code

/-- The CONFIRMs among the datagrams sent. -/
def confirms (effects : List Effect) : List Bytes := (datagrams effects).filter isConfirm

/-- The messages among the datagrams sent: all but the CONFIRMs. -/
def messages (effects : List Effect) : List Bytes := (datagrams effects).filter (!isConfirm ·)

@[simp] theorem datagrams_map_output (lines : List Output) :
    datagrams (lines.map .output) = [] := by
  induction lines <;> simp [*]

@[simp] theorem confirms_append (xs ys : List Effect) :
    confirms (xs ++ ys) = confirms xs ++ confirms ys := by
  simp [confirms, List.filter_append]

@[simp] theorem messages_append (xs ys : List Effect) :
    messages (xs ++ ys) = messages xs ++ messages ys := by
  simp [messages, List.filter_append]

@[simp] theorem confirms_map_output (lines : List Output) : confirms (lines.map .output) = [] := by
  simp [confirms]

@[simp] theorem messages_map_output (lines : List Output) : messages (lines.map .output) = [] := by
  simp [messages]

theorem isConfirm_confirm (k : UInt16) : isConfirm (BinaryMsg.confirm.encode k) = true := rfl

theorem confirm_injective {k k' : UInt16}
    (h : BinaryMsg.confirm.encode k = BinaryMsg.confirm.encode k') : k = k' := by
  rw [← getMsgId_encode k .confirm, h, getMsgId_encode]

/-- The type of a message the client originates; CONFIRM, REPLY and PING it does
not. -/
def BinaryMsg.sentType : BinaryMsg → Option ProtocolMsgType
  | .auth .. => some .mAuth
  | .join .. => some .mJoin
  | .msg .. => some .mMsg
  | .err .. => some .mErr
  | .bye _ => some .mBye
  | _ => none

theorem isConfirm_encode {m : BinaryMsg} {t : ProtocolMsgType} (h : m.sentType = some t)
    (id : UInt16) : isConfirm (m.encode id) = false := by
  cases m <;> cases h <;> simp [isConfirm, BinaryMsg.encode, ProtocolMsgType.code]

/-- `c'` keeps a message built in this wake: one the client originates, of a
type `canSendMessageType` allows in the phase of `c`, with the id `c'` holds. -/
def Fresh (c c' : UdpClient) : Prop :=
  ∃ (m : BinaryMsg) (t : ProtocolMsgType), m.sentType = some t ∧
    canSendMessageType c.currentState t = true ∧ c'.msgToServer = m.encode c'.msgToServerId

theorem Fresh.not_confirm {c c' : UdpClient} (h : Fresh c c') : isConfirm c'.msgToServer = false := by
  obtain ⟨m, t, htype, -, hmsg⟩ := h
  rw [hmsg]
  exact isConfirm_encode htype _

/-- What one wake from `c` on the event `e` into `c'` sends: at most one CONFIRM,
of the datagram `e` brings, whose id it records; and at most one message, the one
`c'` keeps, either the message `c` kept or a fresh one. -/
structure Sends (c : UdpClient) (e : Event) (c' : UdpClient) : Prop where
  confirm :
    confirms c'.log = confirms c.log ∧ c'.confirmedServerMessages = c.confirmedServerMessages ∨
      ∃ src d, e = .datagram src d ∧
        confirms c'.log = confirms c.log ++ [BinaryMsg.confirm.encode (getMsgId d)] ∧
        c'.confirmedServerMessages = c.confirmedServerMessages.insert (getMsgId d)
  message :
    messages c'.log = messages c.log ∧ c'.msgToServer = c.msgToServer ∨
      messages c'.log = messages c.log ++ [c'.msgToServer] ∧
        (c'.msgToServer = c.msgToServer ∨ Fresh c c')

namespace Sends

variable {c c' : UdpClient} {e : Event}

/-- A wake that only prints. -/
theorem quiet (lines : List Output) (hlog : c'.log = c.log ++ lines.map .output)
    (hmsg : c'.msgToServer = c.msgToServer)
    (hset : c'.confirmedServerMessages = c.confirmedServerMessages) : Sends c e c' :=
  ⟨.inl ⟨by simp [hlog], hset⟩, .inl ⟨by simp [hlog], hmsg⟩⟩

/-- A wake that sends and prints nothing. -/
theorem of_frame (hlog : c'.log = c.log) (hmsg : c'.msgToServer = c.msgToServer)
    (hset : c'.confirmedServerMessages = c.confirmedServerMessages) : Sends c e c' :=
  quiet [] (by rw [hlog, List.map_nil, List.append_nil]) hmsg hset

/-- A wake that confirms the datagram it reads. -/
theorem confirmed {src : SockAddr} {d : Bytes} (he : e = .datagram src d) (lines : List Output)
    (dest : SockAddr)
    (hlog : c'.log = c.log ++ lines.map .output ++
      [.sendTo dest (BinaryMsg.confirm.encode (getMsgId d))])
    (hmsg : c'.msgToServer = c.msgToServer)
    (hset : c'.confirmedServerMessages = c.confirmedServerMessages.insert (getMsgId d)) :
    Sends c e c' :=
  ⟨.inr ⟨src, d, he, by simp [hlog, confirms, isConfirm_confirm], hset⟩,
    .inl ⟨by simp [hlog, messages, isConfirm_confirm], hmsg⟩⟩

theorem sent (lines : List Output) (dest : SockAddr)
    (hlog : c'.log = c.log ++ lines.map .output ++ [.sendTo dest c'.msgToServer])
    (hnot : isConfirm c'.msgToServer = false)
    (hset : c'.confirmedServerMessages = c.confirmedServerMessages)
    (hnew : c'.msgToServer = c.msgToServer ∨ Fresh c c') : Sends c e c' :=
  ⟨.inl ⟨by simp [hlog, confirms, hnot], hset⟩,
    .inr ⟨by simp [hlog, messages, hnot], hnew⟩⟩

/-- A wake that sends a message it has just built. -/
theorem fresh (lines : List Output) (dest : SockAddr)
    (hlog : c'.log = c.log ++ lines.map .output ++ [.sendTo dest c'.msgToServer])
    (hset : c'.confirmedServerMessages = c.confirmedServerMessages) (hfresh : Fresh c c') :
    Sends c e c' :=
  sent lines dest hlog hfresh.not_confirm hset (.inr hfresh)

/-- The message kept is never a CONFIRM. -/
theorem kept (h : Sends c e c') (hc : isConfirm c.msgToServer = false) :
    isConfirm c'.msgToServer = false := by
  rcases h.message with ⟨-, hmsg⟩ | ⟨-, hmsg | hfresh⟩
  · rwa [hmsg]
  · rwa [hmsg]
  · exact hfresh.not_confirm

end Sends

namespace UdpClient

variable {args : Args} {c : UdpClient} {d : Bytes} {src : SockAddr} {e : Event}

/-- The log of a wake that prints nothing and sends one datagram. -/
theorem log_without_lines {c' : UdpClient} {x : Effect} (h : c'.log = c.log ++ [x]) :
    c'.log = c.log ++ ([] : List Output).map .output ++ [x] := by
  rw [h, List.map_nil, List.append_nil]

theorem fresh_sendErrMsg (errMsg : String) : Fresh c (c.sendErrMsg args errMsg) :=
  ⟨.err c.userDisplayName (ascii errMsg), .mErr, rfl, rfl, c.buildErrMsg_encode (ascii errMsg)⟩

theorem fresh_sendByeMsgToServer : Fresh c (c.sendByeMsgToServer args) :=
  ⟨.bye c.userDisplayName, .mBye, rfl, rfl, c.buildByeMsg_encode⟩

/-- A command `processNonMsgToServer` lets through is built as a message of its
type, which the phase allows, with the id the counter holds. -/
theorem fresh_sendUserInput {input : UserInput}
    (hsend : processNonMsgToServer c.currentState input = .send) :
    Fresh c (c.sendUserInput args input) := by
  have hallowed := canSendMessageType_of_send hsend
  unfold sendUserInput
  cases input with
  | auth username secret displayName =>
      dsimp only
      split_ifs <;> exact ⟨.auth username displayName secret, .mAuth, rfl, hallowed,
        buildAuthMsg_encode { c with userDisplayName := displayName } username secret⟩
  | join channelId =>
      exact ⟨.join channelId c.userDisplayName, .mJoin, rfl, hallowed, buildJoinMsg_encode c channelId⟩
  | msg content =>
      exact ⟨.msg c.userDisplayName content, .mMsg, rfl, hallowed, buildMsgMsg_encode c content⟩
  | rename displayName => cases hallowed
  | help => cases hallowed

/-- `sendUserInput` sends the message it builds, and leaves the confirmed ids
and the counter alone. -/
theorem sendUserInput_frame (input : UserInput) :
    (c.sendUserInput args input).log =
        c.log ++ [.sendTo c.serverAddr (c.sendUserInput args input).msgToServer] ∧
      (c.sendUserInput args input).confirmedServerMessages = c.confirmedServerMessages ∧
      (c.sendUserInput args input).msgToServerId = c.msgToServerId := by
  unfold sendUserInput
  dsimp only
  split_ifs <;> cases input <;> exact ⟨rfl, rfl, rfl⟩

theorem sends_sendErrMsg (errMsg : String) : Sends c e (c.sendErrMsg args errMsg) :=
  Sends.fresh [_] c.serverAddr rfl rfl (fresh_sendErrMsg errMsg)

theorem sends_sendConfirmMsg (he : e = .datagram src d) :
    Sends c e (c.sendConfirmMsg (getMsgId d)) :=
  Sends.confirmed he [] c.serverAddr (log_without_lines (sendConfirmMsg_encode c _)) rfl rfl

theorem sends_sendByeMsgToServer : Sends c e (c.sendByeMsgToServer args) :=
  Sends.fresh [] c.serverAddr (log_without_lines rfl) rfl fresh_sendByeMsgToServer

theorem sends_sendUserInput {input : UserInput}
    (hsend : processNonMsgToServer c.currentState input = .send) :
    Sends c e (c.sendUserInput args input) :=
  have hframe := @sendUserInput_frame args c input
  Sends.fresh [] c.serverAddr (log_without_lines hframe.1) hframe.2.1 (fresh_sendUserInput hsend)

theorem sends_processStdinEvent (event : StdinEvent) :
    Sends c e (c.processStdinEvent args event).1 := by
  rcases event with (_ | input) | _ | _
  · exact Sends.of_frame rfl rfl rfl
  · simp only [processStdinEvent]
    cases haction : processNonMsgToServer c.currentState input with
    | send => exact sends_sendUserInput haction
    | rename displayName => exact Sends.of_frame rfl rfl rfl
    | print line => exact Sends.quiet [line] rfl rfl rfl
  · exact sends_sendByeMsgToServer
  · exact Sends.of_frame rfl rfl rfl

/-- `sendErrMsg` arms the timer itself, so the one the expiry disarmed does not
matter to it. -/
theorem sendErrMsg_clearTimer (errMsg : String) :
    { c with timer := none }.sendErrMsg args errMsg = c.sendErrMsg args errMsg := rfl

/-- The timer sends the kept message again, or an ERR when the REPLY is late. -/
theorem sends_processTimerEvent (hc : isConfirm c.msgToServer = false) :
    Sends c e ({ c with timer := none }.processTimerEvent args).1 := by
  unfold processTimerEvent
  split_ifs
  · exact Sends.of_frame rfl rfl rfl
  · exact Sends.sent [] c.serverAddr (log_without_lines rfl) hc rfl (.inl rfl)
  · rw [sendErrMsg_clearTimer]
    exact sends_sendErrMsg _
  · exact Sends.of_frame rfl rfl rfl

/-! The handlers of server datagrams confirm the datagram they read or answer it with an ERR. -/

section Datagram

variable (he : e = .datagram src d)
include he

theorem sends_processServerMsgMsg : Sends c e (c.processServerMsgMsg args d) := by
  cases hmatch : matchMsgMsg d with
  | some fields =>
      rw [processServerMsgMsg_of_match hmatch]
      split_ifs
      · exact sends_sendConfirmMsg he
      · exact Sends.confirmed he [_] c.serverAddr (sendConfirmMsg_encode _ _) rfl rfl
  | none =>
      rw [processServerMsgMsg_of_malformed hmatch]
      exact sends_sendErrMsg _

theorem sends_processServerErrMsg : Sends c e (c.processServerErrMsg args d).1 := by
  cases hmatch : matchErrMsg d with
  | some fields =>
      rw [processServerErrMsg_of_match hmatch]
      exact Sends.confirmed he [_] c.serverAddr (sendConfirmMsg_encode _ _) rfl rfl
  | none =>
      rw [processServerErrMsg_of_malformed hmatch]
      exact sends_sendErrMsg _

theorem sends_processServerByeMsg : Sends c e (c.processServerByeMsg args d).1 := by
  unfold processServerByeMsg
  split_ifs
  · exact sends_sendConfirmMsg he
  · exact sends_sendErrMsg _

theorem sends_processServerPingMsg : Sends c e (c.processServerPingMsg args d) := by
  unfold processServerPingMsg
  split_ifs
  · exact sends_sendConfirmMsg he
  · exact sends_sendErrMsg _

omit he in
/-- A CONFIRM sends nothing but, when malformed, an ERR. -/
theorem sends_processServerConfirmMsg : Sends c e (c.processServerConfirmMsg args d).1 := by
  by_cases hvalid : isValidConfirmMsg d
  · by_cases hid : getMsgId d = c.msgToServerId
    · unfold processServerConfirmMsg
      rw [if_pos hvalid, if_pos hid]
      split_ifs <;> (try split) <;>
        exact Sends.of_frame rfl rfl rfl
    · rw [processServerConfirmMsg_of_ne_id hvalid hid]
      exact Sends.of_frame rfl rfl rfl
  · unfold processServerConfirmMsg
    rw [if_neg hvalid]
    exact sends_sendErrMsg _

/-- An accepted REPLY is confirmed to the address it came from in `S_AUTH`. -/
theorem sends_processServerReplyMsg : Sends c e (c.processServerReplyMsg args d src) := by
  by_cases hstate : c.currentState = .sAuth ∨ c.currentState = .sJoin
  · by_cases hvalid : isValidReplyMsg d
    · by_cases haccepted :
          c.isWaitingForReply ∧ (c.msgToServerId.toNat : Int) - 1 = (getRefMsgId d).toNat
      · rw [processServerReplyMsg_of_accepted hstate hvalid haccepted.1 haccepted.2]
        refine Sends.confirmed he (if getMsgId d ∈ c.confirmedServerMessages then []
          else [.incomingReply (replyResult d) (replyContent d)])
          (if c.currentState = .sAuth then src else c.serverAddr) ?_ rfl rfl
        split_ifs <;> rfl
      · rw [processServerReplyMsg_of_not_accepted hstate hvalid haccepted]
        split_ifs <;> exact Sends.of_frame rfl rfl rfl
    · rw [processServerReplyMsg_of_malformed hstate hvalid]
      exact sends_sendErrMsg _
  · rw [processServerReplyMsg_of_unexpected hstate]
    exact sends_sendErrMsg _

theorem sends_processMessageFromServer : Sends c e (c.processMessageFromServer args d src).1 :=
  processMessageFromServer_of_handlers (P := fun r => Sends c e r.1)
    (sends_processServerByeMsg he) (sends_processServerErrMsg he) sends_processServerConfirmMsg
    (sends_processServerReplyMsg he) (sends_processServerPingMsg he) (sends_processServerMsgMsg he)
    sends_sendErrMsg

end Datagram

end UdpClient

/-- One wake from a state whose kept message is no CONFIRM: the timer sends that
message again, and every other handler sends what `Sends` allows. -/
theorem sends_step {args : Args} {c : UdpClient} (hc : isConfirm c.msgToServer = false)
    (e : Event) : Sends c e (step args c e).1 :=
  step_of_handlers (P := fun r => Sends c e r.1)
    (fun event _ => UdpClient.sends_processStdinEvent event)
    (fun _ => UdpClient.sends_processTimerEvent hc)
    (fun _ => UdpClient.sends_sendByeMsgToServer)
    (fun _ _ he _ => UdpClient.sends_processMessageFromServer he)
    UdpClient.sends_sendErrMsg

/-- What a state keeps of what it has sent. -/
structure SendRecord (c : UdpClient) : Prop where
  /-- The message kept for the timer is no CONFIRM. -/
  kept : isConfirm c.msgToServer = false
  /-- It is the last message sent, and empty before the first. -/
  last : (messages c.log).getLast? = some c.msgToServer ∨ messages c.log = [] ∧ c.msgToServer = []
  /-- An id is recorded as confirmed exactly when a CONFIRM of it has been sent. -/
  confirmed : ∀ k, k ∈ c.confirmedServerMessages ↔ BinaryMsg.confirm.encode k ∈ confirms c.log

namespace SendRecord

theorem init (args : Args) : SendRecord (UdpClient.init args) where
  kept := rfl
  last := .inr ⟨rfl, rfl⟩
  confirmed k := iff_of_false (List.not_mem_nil k) (List.not_mem_nil _)

theorem sends {c c' : UdpClient} {e : Event} (h : SendRecord c) (hs : Sends c e c') :
    SendRecord c' where
  kept := hs.kept h.kept
  last := by
    rcases hs.message with ⟨hlog, hmsg⟩ | ⟨hlog, -⟩
    · rw [hlog, hmsg]; exact h.last
    · rw [hlog]; exact .inl (List.getLast?_concat _)
  confirmed k := by
    rcases hs.confirm with ⟨hlog, hset⟩ | ⟨src, d, -, hlog, hset⟩
    · rw [hlog, hset]; exact h.confirmed k
    · have hinj : BinaryMsg.confirm.encode k = BinaryMsg.confirm.encode (getMsgId d) ↔
          k = getMsgId d := ⟨confirm_injective, fun h => h ▸ rfl⟩
      rw [hlog, hset, List.mem_insert_iff, List.mem_append, List.mem_singleton, hinj, h.confirmed k,
        or_comm]

end SendRecord

theorem sendRecord_of_reachable {args : Args} {c : UdpClient} (h : Reachable args c) :
    SendRecord c := by
  induction h with
  | init => exact .init args
  | step _ _ _ ih => exact ih.sends (sends_step ih.kept _)

/-- Over every run: the confirmed ids are those of the CONFIRMs sent and the kept
message is the last one sent; and each wake sends at most one CONFIRM and at most
one message, the one it keeps (`Sends`). -/
theorem reachable_sends {args : Args} {c : UdpClient} (h : Reachable args c) :
    SendRecord c ∧ ∀ e, Sends c e (step args c e).1 :=
  have hrecord := sendRecord_of_reachable h
  ⟨hrecord, fun e => sends_step hrecord.kept e⟩

/-- The session just after `/auth alice ...`: the AUTH is out and waits for its
CONFIRM. -/
def authSent : UdpClient := (step exampleArgs (UdpClient.init exampleArgs) (authCommand "alice")).1

theorem reachable_authSent : Reachable exampleArgs authSent := .step .init (by decide) (by decide)

theorem sends_after_auth :
    SendRecord authSent ∧ ∀ e, Sends authSent e (step exampleArgs authSent e).1 :=
  reachable_sends reachable_authSent

end IpkChat.Udp
