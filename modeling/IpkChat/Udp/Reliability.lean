import IpkChat.Udp.Session
import IpkChat.Udp.Codec

namespace IpkChat.Udp

/-! Runs of `Udp_client` on which its waits, its counter and its destination go wrong. -/

/-- `/auth`, its CONFIRM, a negative REPLY, `/auth` again, the same REPLY again. -/
def staleReplyRun : List Event :=
  [authCommand "alice", .datagram sessionPort [0x00, 0, 0], .datagram sessionPort negativeReply,
    authCommand "alice", .datagram sessionPort negativeReply]

theorem staleReply_breaks_timer_invariant :
    ¬ ∀ c, Reachable exampleArgs c →
      (c.timer.isSome = (c.isWaitingForConfirm || c.isWaitingForReply ||
          c.isWaitingForByeConfirm)) ∧
        (c.stdinRegistered = !(c.isWaitingForConfirm || c.isWaitingForReply ||
          c.isWaitingForByeConfirm)) := by
  intro hinvariant
  obtain ⟨c, hc, hconfirm, htimer, -⟩ : ∃ c, Reachable exampleArgs c ∧
      c.isWaitingForConfirm = true ∧ c.timer = none ∧ c.stdinRegistered = true :=
    Reachable.exists_of_execute staleReplyRun .init (by decide)
  have := (hinvariant c hc).1
  simp [hconfirm, htimer] at this

/-- The state before the second copy of the REPLY: the AUTH with id 1 is waiting
for its CONFIRM, and the REPLY refers to id 0, yet it is accepted. -/
theorem staleReply_accepted_before_confirm :
    isValidReplyMsg negativeReply = true ∧ getRefMsgId negativeReply = 0 ∧
      ∃ c, Reachable exampleArgs c ∧ c.isWaitingForConfirm = true ∧
        c.lastMsgType = ProtocolMsgType.mAuth.code ∧ getMsgId c.msgToServer = 1 ∧
        (step exampleArgs c (.datagram sessionPort negativeReply)).1.isWaitingForReply = false ∧
        (step exampleArgs c (.datagram sessionPort negativeReply)).1.timer = none ∧
        (step exampleArgs c (.datagram sessionPort negativeReply)).1.stdinRegistered = true :=
  ⟨by decide, by decide, Reachable.exists_of_execute (staleReplyRun.take 4) .init (by decide)⟩

/-- Three `/auth` commands: the second and the third are sent with the same id 1
although they are different messages and no timer expired in between. -/
def reauthRun : List Event :=
  [authCommand "alice", .datagram sessionPort [0x00, 0, 0], .datagram sessionPort negativeReply,
    authCommand "bob", .datagram sessionPort negativeReply, authCommand "carol"]

theorem reauth_reuses_msgId :
    reauthRun.all (· != .timerExpired) = true ∧
      ∃ c, Reachable exampleArgs c ∧
        (datagrams c.log).map (fun d => (d.headD 0, getMsgId d, (d.drop 3).takeWhile (· != 0))) =
          [(0x02, 0, ascii "alice"), (0x00, 7, []), (0x02, 1, ascii "bob"), (0x00, 7, []),
            (0x02, 1, ascii "carol")] := by
  exact ⟨by decide, Reachable.exists_of_execute reauthRun .init (by decide)⟩

/-- A JOIN whose REPLY overtakes its CONFIRM: the client is still in `S_OPEN`
and answers the well-formed REPLY with an ERR. -/
def joinRun : List Event :=
  [authCommand "alice", .datagram sessionPort [0x00, 0, 0], .datagram sessionPort positiveReply,
    joinCommand]

/-- A positive REPLY with id 8 to the JOIN, which was sent with id 1. -/
def joinReply : Bytes := [0x01, 0, 8, 1, 0, 1] ++ ascii "Joined." ++ [0]

theorem joinReply_before_confirm_sends_err :
    isValidReplyMsg joinReply = true ∧ getRefMsgId joinReply = 1 ∧
      ∃ c, Reachable exampleArgs c ∧ c.lastMsgType = ProtocolMsgType.mJoin.code ∧
        getMsgId c.msgToServer = 1 ∧ c.isWaitingForConfirm = true ∧
        (datagrams (stepEffects exampleArgs c (.datagram sessionPort joinReply))).map
          (·.headD 0) = [ProtocolMsgType.mErr.code] := by
  exact ⟨by decide, by decide, Reachable.exists_of_execute joinRun .init (by decide)⟩

/-- An AUTH retransmitted until the budget is spent, then a datagram the AUTH
state does not accept: the ERR it causes is built with no budget left. -/
def exhaustedRun : List Event :=
  [authCommand "alice", .timerExpired, .timerExpired, .timerExpired,
    .datagram sessionPort ([0x04, 0, 9] ++ ascii "bob" ++ [0] ++ ascii "hi" ++ [0])]

theorem err_after_retransmissions_sent_once :
    exampleArgs.udpMaxRetransCount = 3 ∧
      ∃ c, Reachable exampleArgs c ∧ c.lastMsgType = ProtocolMsgType.mErr.code ∧
        c.isWaitingForConfirm = true ∧ (datagrams c.log).count c.msgToServer = 1 ∧
        (step exampleArgs c .timerExpired).2 = .raise "exceeded udp max retransmission number." := by
  exact ⟨rfl, Reachable.exists_of_execute exhaustedRun .init (by decide)⟩


/-! Where the datagrams go: only `processServerReplyMsg` moves the destination. -/

/-- The source of a well-formed REPLY read in `S_AUTH`: where a wake of the loop
moves the destination. -/
def replySource (c : UdpClient) : Event → Option SockAddr
  | .datagram src bytes => if c.currentState = .sAuth ∧ isValidReplyMsg bytes then some src else none
  | _ => none

namespace UdpClient

variable {args : Args} {c : UdpClient} {d : Bytes} {src : SockAddr}

theorem serverAddr_processStdinEvent (event : StdinEvent) :
    (c.processStdinEvent args event).1.serverAddr = c.serverAddr := by
  rcases event with (_ | input) | _ | _
  · rfl
  · simp only [processStdinEvent]
    split
    · rfl
    · rfl
    · simp only [sendUserInput]
      split_ifs <;> cases input <;> rfl
  · rfl
  · rfl

theorem serverAddr_processTimerEvent : (c.processTimerEvent args).1.serverAddr = c.serverAddr := by
  unfold processTimerEvent
  split_ifs <;> first | with_reducible exact serverAddr_sendErrMsg _ | rfl

theorem serverAddr_processServerConfirmMsg :
    (c.processServerConfirmMsg args d).1.serverAddr = c.serverAddr := by
  unfold processServerConfirmMsg
  by_cases hvalid : isValidConfirmMsg d
  · rw [if_pos hvalid]
    by_cases hid : getMsgId d = c.msgToServerId
    · rw [if_pos hid]
      split_ifs <;> (try split) <;> first | with_reducible exact serverAddr_sendErrMsg _ | rfl
    · rw [if_neg hid]
  · rw [if_neg hvalid]
    exact serverAddr_sendErrMsg _

theorem serverAddr_processServerMsgMsg : (c.processServerMsgMsg args d).serverAddr = c.serverAddr := by
  cases hmatch : matchMsgMsg d with
  | some fields =>
      rw [processServerMsgMsg_of_match hmatch]
      split_ifs <;> rfl
  | none =>
      rw [processServerMsgMsg_of_malformed hmatch]
      exact serverAddr_sendErrMsg _

theorem serverAddr_processServerErrMsg : (c.processServerErrMsg args d).1.serverAddr = c.serverAddr := by
  cases hmatch : matchErrMsg d with
  | some fields => rw [processServerErrMsg_of_match hmatch]; rfl
  | none =>
      rw [processServerErrMsg_of_malformed hmatch]
      exact serverAddr_sendErrMsg _

theorem serverAddr_processServerByeMsg : (c.processServerByeMsg args d).1.serverAddr = c.serverAddr := by
  unfold processServerByeMsg
  split_ifs
  · rfl
  · exact serverAddr_sendErrMsg _

theorem serverAddr_processServerPingMsg : (c.processServerPingMsg args d).serverAddr = c.serverAddr := by
  unfold processServerPingMsg
  split_ifs
  · rfl
  · exact serverAddr_sendErrMsg _

theorem serverAddr_processMessageFromServer :
    (c.processMessageFromServer args d src).1.serverAddr =
      if c.currentState = .sAuth ∧ isValidReplyMsg d then src else c.serverAddr := by
  split_ifs with hrebind
  · rw [processMessageFromServer_of_reply (isValidReplyMsg_type hrebind.2) (.inl hrebind.1),
      serverAddr_processServerReplyMsg, if_pos hrebind]
  · have hreply : (c.processServerReplyMsg args d src).serverAddr = c.serverAddr := by
      rw [serverAddr_processServerReplyMsg, if_neg hrebind]
    unfold processMessageFromServer
    split_ifs
    · exact serverAddr_processServerByeMsg
    · exact serverAddr_processServerErrMsg
    · split <;> split
      all_goals first
        | with_reducible exact hreply
        | with_reducible exact serverAddr_processServerConfirmMsg
        | with_reducible exact serverAddr_processServerPingMsg
        | with_reducible exact serverAddr_processServerMsgMsg
        | with_reducible exact serverAddr_sendErrMsg _

end UdpClient

/-- One wake of the loop moves the destination of the client's datagrams only
on a well-formed REPLY read in `S_AUTH`, and then to the REPLY's source, whether
`processServerReplyMsg` accepts the REPLY or not. -/
theorem step_serverAddr (args : Args) (c : UdpClient) (e : Event) :
    (step args c e).1.serverAddr = (replySource c e).getD c.serverAddr := by
  cases e with
  | stdin event => exact UdpClient.serverAddr_processStdinEvent event
  | timerExpired => exact UdpClient.serverAddr_processTimerEvent
  | sigint => rfl
  | datagram src bytes =>
      by_cases hfits : bytes.length ≤ sMaxMsgSize
      · rw [step, UdpClient.processSocketEvent_of_fits args c src hfits,
          UdpClient.serverAddr_processMessageFromServer]
        simp only [replySource]
        split_ifs <;> rfl
      · have hinvalid : ¬(c.currentState = .sAuth ∧ isValidReplyMsg bytes) :=
          fun h => hfits (isValidReplyMsg_fits h.2)
        rw [step, UdpClient.processSocketEvent_of_long args c src (Nat.lt_of_not_le hfits)]
        simp only [replySource, if_neg hinvalid]
        exact UdpClient.serverAddr_sendErrMsg _
  | recvFailed => exact UdpClient.serverAddr_sendErrMsg _

/-- A port on the server's host that the session does not use. -/
def strayPort : SockAddr := ⟨0x7F000001, 60000⟩

/-- `/auth`, then a REPLY from `strayPort` before the AUTH's CONFIRM: it is not
accepted, yet the destination moves and the AUTH is retransmitted to `strayPort`. -/
theorem strayReply_rebinds_destination :
    isValidReplyMsg positiveReply = true ∧
      ∃ c, Reachable exampleArgs c ∧ c.currentState = .sAuth ∧ c.isWaitingForConfirm = true ∧
        c.serverAddr = exampleArgs.serverAddr ∧
        stepEffects exampleArgs c (.datagram strayPort positiveReply) = [] ∧
        (step exampleArgs c (.datagram strayPort positiveReply)).1.currentState = .sAuth ∧
        (step exampleArgs c (.datagram strayPort positiveReply)).1.serverAddr = strayPort ∧
        stepEffects exampleArgs (step exampleArgs c (.datagram strayPort positiveReply)).1
          .timerExpired = [.sendTo strayPort c.msgToServer] :=
  ⟨by decide, Reachable.exists_of_execute [authCommand "alice"] .init (by decide)⟩

/-! A CONFIRM acts on the counter and the last message built, whatever the waits are. -/

/-- `/auth` and the CONFIRM of the AUTH, which was sent with id 0. -/
def confirmedAuthRun : List Event := [authCommand "alice", .datagram sessionPort [0x00, 0, 0]]

/-- After `confirmedAuthRun` a CONFIRM with id 1, which no message sent carries,
re-runs the AUTH's branch: the counter moves to 2 and the REPLY to the AUTH is
no longer accepted. -/
theorem unsolicited_confirm_advances_counter :
    isValidConfirmMsg [0x00, 0, 1] = true ∧
      ∃ c, Reachable exampleArgs c ∧ c.isWaitingForConfirm = false ∧
        c.isWaitingForByeConfirm = false ∧ c.msgToServerId = 1 ∧
        (step exampleArgs c (.datagram sessionPort [0x00, 0, 1])).1.msgToServerId = 2 ∧
        (step exampleArgs c (.datagram sessionPort positiveReply)).1.currentState = .sOpen ∧
        (step exampleArgs (step exampleArgs c (.datagram sessionPort [0x00, 0, 1])).1
          (.datagram sessionPort positiveReply)).1.currentState = .sAuth :=
  ⟨by decide, Reachable.exists_of_execute confirmedAuthRun .init (by decide)⟩

end IpkChat.Udp
