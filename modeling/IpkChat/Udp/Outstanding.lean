import IpkChat.Udp.Sends
import IpkChat.Udp.Shutdown

namespace IpkChat.Udp

/-! The message that waits for its CONFIRM carries the id `m_msg_to_server_id` holds. -/

/-- `m_is_waiting_for_confirm || m_is_waiting_for_bye_confirm`, the guard of the
retransmission branch of `processTimerEvent`. -/
def UdpClient.awaitsConfirm (c : UdpClient) : Bool := c.isWaitingForConfirm || c.isWaitingForByeConfirm

/-- If `c'` awaits a CONFIRM, it awaits it for the message `c` awaited one for,
under the same counter, or for a message built in this wake. -/
def KeepsOutstanding (c c' : UdpClient) : Prop :=
  c'.awaitsConfirm = true →
    (c.awaitsConfirm = true ∧ c'.msgToServer = c.msgToServer ∧
      c'.msgToServerId = c.msgToServerId) ∨ Fresh c c'

/-- While a CONFIRM is awaited, the message waiting for it is one the client
builds, with the id the counter holds. -/
def Outstanding (c : UdpClient) : Prop :=
  c.awaitsConfirm = true →
    ∃ (m : BinaryMsg) (t : ProtocolMsgType), m.sentType = some t ∧
      c.msgToServer = m.encode c.msgToServerId

namespace KeepsOutstanding

variable {c c' : UdpClient}

theorem of_frame (hwait : c'.awaitsConfirm = c.awaitsConfirm)
    (hmsg : c'.msgToServer = c.msgToServer) (hid : c'.msgToServerId = c.msgToServerId) :
    KeepsOutstanding c c' :=
  fun hc' => .inl ⟨hwait ▸ hc', hmsg, hid⟩

theorem of_fresh (h : Fresh c c') : KeepsOutstanding c c' := fun _ => .inr h

theorem of_clear (hconfirm : c'.isWaitingForConfirm = false)
    (hbye : c'.isWaitingForByeConfirm = false) : KeepsOutstanding c c' := by
  intro hc'
  simp only [UdpClient.awaitsConfirm, hconfirm, hbye, Bool.or_self] at hc'
  cases hc'

theorem outstanding (h : KeepsOutstanding c c') (hc : Outstanding c) : Outstanding c' := by
  intro hc'
  rcases h hc' with ⟨hwait, hmsg, hid⟩ | ⟨m, t, htype, -, hmsg⟩
  · rw [hmsg, hid]
    exact hc hwait
  · exact ⟨m, t, htype, hmsg⟩

end KeepsOutstanding

namespace UdpClient

variable {args : Args} {c : UdpClient} {d : Bytes} {src : SockAddr}

theorem keepsOutstanding_sendErrMsg (errMsg : String) :
    KeepsOutstanding c (c.sendErrMsg args errMsg) :=
  .of_fresh (fresh_sendErrMsg errMsg)

theorem keepsOutstanding_processStdinEvent (event : StdinEvent) :
    KeepsOutstanding c (c.processStdinEvent args event).1 := by
  rcases event with (_ | input) | _ | _
  · exact .of_frame rfl rfl rfl
  · simp only [processStdinEvent]
    cases haction : processNonMsgToServer c.currentState input with
    | send => exact .of_fresh (fresh_sendUserInput haction)
    | rename displayName => exact .of_frame rfl rfl rfl
    | print line => exact .of_frame rfl rfl rfl
  · exact .of_fresh fresh_sendByeMsgToServer
  · exact .of_frame rfl rfl rfl

theorem keepsOutstanding_processTimerEvent :
    KeepsOutstanding c ({ c with timer := none }.processTimerEvent args).1 := by
  unfold processTimerEvent
  split_ifs
  · exact .of_frame rfl rfl rfl
  · exact .of_frame rfl rfl rfl
  · rw [sendErrMsg_clearTimer]
    exact keepsOutstanding_sendErrMsg _
  · exact .of_frame rfl rfl rfl

/-- The branches of a CONFIRM that move the counter end the wait, and run only
while no BYE is out. -/
theorem keepsOutstanding_processServerConfirmMsg (h : ByeDiscipline c) :
    KeepsOutstanding c (c.processServerConfirmMsg args d).1 := by
  by_cases hvalid : isValidConfirmMsg d
  · by_cases hid : getMsgId d = c.msgToServerId
    · unfold processServerConfirmMsg
      rw [if_pos hvalid, if_pos hid]
      split_ifs with hbye herr <;> (try split)
      all_goals first
        | exact .of_clear rfl (h.clear fun hdown => hdown.bye_or_err.elim hbye herr)
        | exact .of_frame rfl rfl rfl
    · rw [processServerConfirmMsg_of_ne_id hvalid hid]
      exact .of_frame rfl rfl rfl
  · unfold processServerConfirmMsg
    rw [if_neg hvalid]
    exact keepsOutstanding_sendErrMsg _

theorem keepsOutstanding_processServerReplyMsg :
    KeepsOutstanding c (c.processServerReplyMsg args d src) := by
  by_cases hstate : c.currentState = .sAuth ∨ c.currentState = .sJoin
  · by_cases hvalid : isValidReplyMsg d
    · by_cases haccepted :
          c.isWaitingForReply ∧ (c.msgToServerId.toNat : Int) - 1 = (getRefMsgId d).toNat
      · rw [processServerReplyMsg_of_accepted hstate hvalid haccepted.1 haccepted.2]
        exact .of_frame rfl rfl rfl
      · rw [processServerReplyMsg_of_not_accepted hstate hvalid haccepted]
        split_ifs <;> exact .of_frame rfl rfl rfl
    · rw [processServerReplyMsg_of_malformed hstate hvalid]
      exact keepsOutstanding_sendErrMsg _
  · rw [processServerReplyMsg_of_unexpected hstate]
    exact keepsOutstanding_sendErrMsg _

theorem keepsOutstanding_processServerMsgMsg :
    KeepsOutstanding c (c.processServerMsgMsg args d) := by
  cases hmatch : matchMsgMsg d with
  | some fields =>
      rw [processServerMsgMsg_of_match hmatch]
      split_ifs <;> exact .of_frame rfl rfl rfl
  | none =>
      rw [processServerMsgMsg_of_malformed hmatch]
      exact keepsOutstanding_sendErrMsg _

theorem keepsOutstanding_processServerErrMsg :
    KeepsOutstanding c (c.processServerErrMsg args d).1 := by
  cases hmatch : matchErrMsg d with
  | some fields =>
      rw [processServerErrMsg_of_match hmatch]
      exact .of_frame rfl rfl rfl
  | none =>
      rw [processServerErrMsg_of_malformed hmatch]
      exact keepsOutstanding_sendErrMsg _

theorem keepsOutstanding_processServerByeMsg :
    KeepsOutstanding c (c.processServerByeMsg args d).1 := by
  unfold processServerByeMsg
  split_ifs
  · exact .of_frame rfl rfl rfl
  · exact keepsOutstanding_sendErrMsg _

theorem keepsOutstanding_processServerPingMsg :
    KeepsOutstanding c (c.processServerPingMsg args d) := by
  unfold processServerPingMsg
  split_ifs
  · exact .of_frame rfl rfl rfl
  · exact keepsOutstanding_sendErrMsg _

theorem keepsOutstanding_processMessageFromServer (h : ByeDiscipline c) :
    KeepsOutstanding c (c.processMessageFromServer args d src).1 :=
  processMessageFromServer_of_handlers (P := fun r => KeepsOutstanding c r.1)
    keepsOutstanding_processServerByeMsg keepsOutstanding_processServerErrMsg
    (keepsOutstanding_processServerConfirmMsg h) keepsOutstanding_processServerReplyMsg
    keepsOutstanding_processServerPingMsg keepsOutstanding_processServerMsgMsg
    keepsOutstanding_sendErrMsg

end UdpClient

theorem keepsOutstanding_step {args : Args} {c : UdpClient} (h : ByeDiscipline c) (e : Event) :
    KeepsOutstanding c (step args c e).1 :=
  step_of_handlers (P := fun r => KeepsOutstanding c r.1)
    (fun event _ => UdpClient.keepsOutstanding_processStdinEvent event)
    (fun _ => UdpClient.keepsOutstanding_processTimerEvent)
    (fun _ => .of_fresh UdpClient.fresh_sendByeMsgToServer)
    (fun _ _ _ _ => UdpClient.keepsOutstanding_processMessageFromServer h)
    UdpClient.keepsOutstanding_sendErrMsg

theorem Reachable.outstanding {args : Args} {c : UdpClient} (h : Reachable args c) :
    Outstanding c := by
  induction h with
  | init => nofun
  | step hc _ _ ih => exact (keepsOutstanding_step hc.byeDiscipline _).outstanding ih

theorem BinaryMsg.encode_ne_nil (m : BinaryMsg) (id : UInt16) : m.encode id ≠ [] := by
  cases m <;> exact List.cons_ne_nil _ _

/-- In every reachable state that waits for a CONFIRM, the message waiting is the
last one sent, built with the id `m_msg_to_server_id` holds; a CONFIRM with any
other id changes nothing. -/
theorem awaited_confirm_matches_sent {args : Args} {c : UdpClient} (h : Reachable args c)
    (hwait : c.awaitsConfirm = true) :
    (∃ (m : BinaryMsg) (t : ProtocolMsgType), m.sentType = some t ∧
        c.msgToServer = m.encode c.msgToServerId) ∧
      (messages c.log).getLast? = some c.msgToServer ∧
      ∀ src k, k ≠ getMsgId c.msgToServer →
        step args c (.datagram src (BinaryMsg.confirm.encode k)) = (c, .proceed) := by
  obtain ⟨m, t, htype, hmsg⟩ := h.outstanding hwait
  refine ⟨⟨m, t, htype, hmsg⟩, ?_, fun src k hk => ?_⟩
  · rcases (sendRecord_of_reachable h).last with hlast | ⟨-, hempty⟩
    · exact hlast
    · exact absurd (hmsg.symm.trans hempty) (m.encode_ne_nil _)
  · have hvalid := isValidConfirmMsg_encode k
    have hid : getMsgId (BinaryMsg.confirm.encode k) ≠ c.msgToServerId := by
      rwa [getMsgId_encode, ← getMsgId_encode c.msgToServerId m, ← hmsg]
    rw [step, UdpClient.processSocketEvent_of_fits args c src (isValidConfirmMsg_fits hvalid),
      UdpClient.processMessageFromServer_of_confirm (isValidConfirmMsg_type hvalid),
      UdpClient.processServerConfirmMsg_of_ne_id hvalid hid]

/-- After `/auth` the AUTH waits for its CONFIRM. -/
theorem auth_awaits_its_confirm :
    authSent.awaitsConfirm = true ∧
      (∃ (m : BinaryMsg) (t : ProtocolMsgType), m.sentType = some t ∧
          authSent.msgToServer = m.encode authSent.msgToServerId) ∧
      (messages authSent.log).getLast? = some authSent.msgToServer ∧
      ∀ src k, k ≠ getMsgId authSent.msgToServer →
        step exampleArgs authSent (.datagram src (BinaryMsg.confirm.encode k)) = (authSent, .proceed) :=
  ⟨rfl, awaited_confirm_matches_sent reachable_authSent rfl⟩

end IpkChat.Udp
