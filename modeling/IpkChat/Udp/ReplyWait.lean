import IpkChat.Udp.Sends

namespace IpkChat.Udp

/-! The phase and the last message built while `m_is_waiting_for_reply` is set. -/

/-- A REPLY is awaited only with an AUTH last built in `S_AUTH`, a JOIN in `S_JOIN`,
or a JOIN in `S_OPEN` that still waits for its CONFIRM. -/
def ReplyWait (c : UdpClient) : Prop :=
  c.isWaitingForReply = true →
    c.currentState = .sAuth ∧ c.lastMsgType = ProtocolMsgType.mAuth.code ∨
      c.currentState = .sJoin ∧ c.lastMsgType = ProtocolMsgType.mJoin.code ∨
      c.currentState = .sOpen ∧ c.lastMsgType = ProtocolMsgType.mJoin.code ∧
        c.isWaitingForConfirm = true

namespace ReplyWait

variable {c c' : UdpClient}

/-- A handler that leaves the wait, the phase, the last message and the wait for
a CONFIRM alone. -/
theorem of_frame (h : ReplyWait c) (hreply : c'.isWaitingForReply = c.isWaitingForReply)
    (hstate : c'.currentState = c.currentState) (hmsg : c'.msgToServer = c.msgToServer)
    (hconfirm : c'.isWaitingForConfirm = c.isWaitingForConfirm) : ReplyWait c' := by
  intro hc'
  have hlast : c'.lastMsgType = c.lastMsgType := congrArg (List.headD · 0) hmsg
  rw [hstate, hlast, hconfirm]
  exact h (hreply ▸ hc')

theorem of_not_waiting (hreply : c'.isWaitingForReply = false) : ReplyWait c' :=
  fun hc' => absurd (hreply.symm.trans hc') Bool.false_ne_true

/-- Where the CONFIRM of a MSG comes, in `S_OPEN`, no REPLY is awaited. -/
theorem not_waiting_of_msg (h : ReplyWait c) (hstate : c.currentState = .sOpen)
    (hlast : c.lastMsgType = ProtocolMsgType.mMsg.code) : c.isWaitingForReply = false := by
  refine Bool.eq_false_iff.mpr fun hreply => ?_
  rcases h hreply with ⟨hauth, -⟩ | ⟨hjoin, -⟩ | ⟨-, hjoin, -⟩
  · exact absurd (hstate.symm.trans hauth) nofun
  · exact absurd (hstate.symm.trans hjoin) nofun
  · exact absurd (hlast.symm.trans hjoin) (by decide)

end ReplyWait

namespace UdpClient

variable {args : Args} {c : UdpClient} {d : Bytes} {src : SockAddr}

/-- An AUTH leaves the client in `S_AUTH` and a JOIN in `S_OPEN`, each the last
message built; a MSG awaits no REPLY. -/
theorem replyWait_sendUserInput {input : UserInput}
    (hsend : processNonMsgToServer c.currentState input = .send) :
    ReplyWait (c.sendUserInput args input) := by
  unfold sendUserInput
  cases input with
  | auth username secret displayName =>
      dsimp only
      split_ifs with hstart
      · exact fun _ => .inl ⟨rfl, rfl⟩
      · have hauth : c.currentState = .sAuth :=
          (phase_of_send_auth hsend).resolve_left fun h => hstart ⟨rfl, h⟩
        exact fun _ => .inl ⟨hauth, rfl⟩
  | join channelId => exact fun _ => .inr (.inr ⟨phase_of_send_join hsend, rfl, rfl⟩)
  | msg content => exact .of_not_waiting rfl
  | rename displayName => cases canSendMessageType_of_send hsend
  | help => cases canSendMessageType_of_send hsend

theorem replyWait_processStdinEvent (h : ReplyWait c) (event : StdinEvent) :
    ReplyWait (c.processStdinEvent args event).1 := by
  rcases event with (_ | input) | _ | _
  · exact h
  · simp only [processStdinEvent]
    cases haction : processNonMsgToServer c.currentState input with
    | send => exact replyWait_sendUserInput haction
    | rename displayName => exact h.of_frame rfl rfl rfl rfl
    | print line => exact h.of_frame rfl rfl rfl rfl
  · exact .of_not_waiting rfl
  · exact h

theorem replyWait_processTimerEvent (h : ReplyWait c) :
    ReplyWait ({ c with timer := none }.processTimerEvent args).1 := by
  unfold processTimerEvent
  split_ifs
  · exact h.of_frame rfl rfl rfl rfl
  · exact h.of_frame rfl rfl rfl rfl
  · exact .of_not_waiting rfl
  · exact h.of_frame rfl rfl rfl rfl

/-- The CONFIRM of an AUTH keeps `S_AUTH`, that of a JOIN moves to `S_JOIN`, and
that of a MSG keeps a flag that is clear. -/
theorem replyWait_processServerConfirmMsg (h : ReplyWait c) :
    ReplyWait (c.processServerConfirmMsg args d).1 := by
  by_cases hvalid : isValidConfirmMsg d
  · by_cases hid : getMsgId d = c.msgToServerId
    · unfold processServerConfirmMsg
      rw [if_pos hvalid, if_pos hid]
      split_ifs <;> (try split)
      all_goals first
        | exact h.of_frame rfl rfl rfl rfl
        | exact fun _ => .inl ⟨‹c.currentState = .sAuth›, ‹_›⟩
        | exact fun _ => .inr (.inl ⟨rfl, ‹_›⟩)
        | exact .of_not_waiting (h.not_waiting_of_msg ‹_› ‹_›)
    · rw [processServerConfirmMsg_of_ne_id hvalid hid]
      exact h.of_frame rfl rfl rfl rfl
  · unfold processServerConfirmMsg
    rw [if_neg hvalid]
    exact .of_not_waiting rfl

theorem replyWait_processServerReplyMsg (h : ReplyWait c) :
    ReplyWait (c.processServerReplyMsg args d src) := by
  by_cases hstate : c.currentState = .sAuth ∨ c.currentState = .sJoin
  · by_cases hvalid : isValidReplyMsg d
    · by_cases haccepted :
          c.isWaitingForReply ∧ (c.msgToServerId.toNat : Int) - 1 = (getRefMsgId d).toNat
      · rw [processServerReplyMsg_of_accepted hstate hvalid haccepted.1 haccepted.2]
        exact .of_not_waiting rfl
      · rw [processServerReplyMsg_of_not_accepted hstate hvalid haccepted]
        split_ifs <;> exact h.of_frame rfl rfl rfl rfl
    · rw [processServerReplyMsg_of_malformed hstate hvalid]
      exact .of_not_waiting rfl
  · rw [processServerReplyMsg_of_unexpected hstate]
    exact .of_not_waiting rfl

theorem replyWait_processServerMsgMsg (h : ReplyWait c) :
    ReplyWait (c.processServerMsgMsg args d) := by
  cases hmatch : matchMsgMsg d with
  | some fields =>
      rw [processServerMsgMsg_of_match hmatch]
      split_ifs <;> exact h.of_frame rfl rfl rfl rfl
  | none =>
      rw [processServerMsgMsg_of_malformed hmatch]
      exact .of_not_waiting rfl

theorem replyWait_processServerErrMsg (h : ReplyWait c) :
    ReplyWait (c.processServerErrMsg args d).1 := by
  cases hmatch : matchErrMsg d with
  | some fields =>
      rw [processServerErrMsg_of_match hmatch]
      exact h.of_frame rfl rfl rfl rfl
  | none =>
      rw [processServerErrMsg_of_malformed hmatch]
      exact .of_not_waiting rfl

theorem replyWait_processServerByeMsg (h : ReplyWait c) :
    ReplyWait (c.processServerByeMsg args d).1 := by
  unfold processServerByeMsg
  split_ifs
  · exact h.of_frame rfl rfl rfl rfl
  · exact .of_not_waiting rfl

theorem replyWait_processServerPingMsg (h : ReplyWait c) :
    ReplyWait (c.processServerPingMsg args d) := by
  unfold processServerPingMsg
  split_ifs
  · exact h.of_frame rfl rfl rfl rfl
  · exact .of_not_waiting rfl

theorem replyWait_processMessageFromServer (h : ReplyWait c) :
    ReplyWait (c.processMessageFromServer args d src).1 :=
  processMessageFromServer_of_handlers (P := fun r => ReplyWait r.1)
    (replyWait_processServerByeMsg h) (replyWait_processServerErrMsg h)
    (replyWait_processServerConfirmMsg h) (replyWait_processServerReplyMsg h)
    (replyWait_processServerPingMsg h) (replyWait_processServerMsgMsg h)
    fun _ => .of_not_waiting rfl

end UdpClient

theorem replyWait_step {args : Args} {c : UdpClient} (h : ReplyWait c) (e : Event) :
    ReplyWait (step args c e).1 :=
  step_of_handlers (P := fun r => ReplyWait r.1)
    (fun event _ => UdpClient.replyWait_processStdinEvent h event)
    (fun _ => UdpClient.replyWait_processTimerEvent h)
    (fun _ => .of_not_waiting rfl)
    (fun _ _ _ _ => UdpClient.replyWait_processMessageFromServer h)
    fun _ => .of_not_waiting rfl

theorem Reachable.replyWait {args : Args} {c : UdpClient} (h : Reachable args c) : ReplyWait c := by
  induction h with
  | init => nofun
  | step _ _ _ ih => exact replyWait_step ih _

/-- In every reachable UDP state, `m_is_waiting_for_reply` is set only with an AUTH
last built in `S_AUTH`, a JOIN in `S_JOIN`, or a JOIN awaiting its CONFIRM in `S_OPEN`. -/
theorem reply_awaited_after_auth_or_join {args : Args} {c : UdpClient} (h : Reachable args c)
    (hreply : c.isWaitingForReply = true) :
    c.currentState = .sAuth ∧ c.lastMsgType = ProtocolMsgType.mAuth.code ∨
      c.currentState = .sJoin ∧ c.lastMsgType = ProtocolMsgType.mJoin.code ∨
      c.currentState = .sOpen ∧ c.lastMsgType = ProtocolMsgType.mJoin.code ∧
        c.isWaitingForConfirm = true :=
  h.replyWait hreply

/-- After `/auth` a REPLY is awaited in `S_AUTH`. -/
theorem auth_awaits_reply :
    authSent.isWaitingForReply = true ∧
      (authSent.currentState = .sAuth ∧ authSent.lastMsgType = ProtocolMsgType.mAuth.code ∨
        authSent.currentState = .sJoin ∧ authSent.lastMsgType = ProtocolMsgType.mJoin.code ∨
        authSent.currentState = .sOpen ∧ authSent.lastMsgType = ProtocolMsgType.mJoin.code ∧
          authSent.isWaitingForConfirm = true) :=
  ⟨rfl, reply_awaited_after_auth_or_join reachable_authSent rfl⟩

end IpkChat.Udp
