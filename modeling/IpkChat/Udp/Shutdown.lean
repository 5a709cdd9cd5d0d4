import IpkChat.Udp.Session
import IpkChat.Udp.Codec

namespace IpkChat.Udp

/-! How a UDP session ends; every `sendto()` is taken to succeed. -/

/-- What holds while the BYE waits for its CONFIRM. -/
structure WindingDown (c : UdpClient) : Prop where
  stdin_unregistered : c.stdinRegistered = false
  timer_armed : c.timer.isSome = true
  not_waiting_for_reply : c.isWaitingForReply = false
  bye_or_err :
    c.lastMsgType = ProtocolMsgType.mBye.code ∨ c.lastMsgType = ProtocolMsgType.mErr.code

/-- `WindingDown` from the moment the BYE is sent. -/
def ByeDiscipline (c : UdpClient) : Prop := c.isWaitingForByeConfirm = true → WindingDown c

/-- `c'` still waits for the BYE's CONFIRM if `c` did, and keeps the discipline. -/
def WindsDown (c c' : UdpClient) : Prop :=
  (c.isWaitingForByeConfirm = true → c'.isWaitingForByeConfirm = true) ∧ ByeDiscipline c'

/-- The flag is clear where the discipline rules out what a branch requires. -/
theorem ByeDiscipline.clear {c : UdpClient} (h : ByeDiscipline c) (hnot : ¬WindingDown c) :
    c.isWaitingForByeConfirm = false :=
  Bool.eq_false_iff.mpr fun hbye => hnot (h hbye)

namespace UdpClient

variable {args : Args} {c c' : UdpClient} {d : Bytes} {src : SockAddr}

/-- A handler that leaves the flags, the timer and the last message alone. -/
theorem windsDown_of_frame (h : ByeDiscipline c)
    (hbye : c'.isWaitingForByeConfirm = c.isWaitingForByeConfirm)
    (hstdin : c'.stdinRegistered = c.stdinRegistered) (htimer : c'.timer = c.timer)
    (hreply : c'.isWaitingForReply = c.isWaitingForReply)
    (hmsg : c'.msgToServer = c.msgToServer) : WindsDown c c' := by
  refine ⟨hbye.trans, fun hc' => ?_⟩
  obtain ⟨hstdin₀, htimer₀, hreply₀, hlast₀⟩ := h (hbye.symm.trans hc')
  have hlast : c'.lastMsgType = c.lastMsgType := congrArg (List.headD · 0) hmsg
  exact ⟨hstdin.trans hstdin₀, htimer ▸ htimer₀, hreply.trans hreply₀, hlast ▸ hlast₀⟩

/-- A handler that runs while no BYE is out and sends none. -/
theorem windsDown_of_clear (hclear : c.isWaitingForByeConfirm = false)
    (hclear' : c'.isWaitingForByeConfirm = false) : WindsDown c c' :=
  ⟨fun hc => absurd (hclear.symm.trans hc) Bool.false_ne_true,
    fun hc' => absurd (hclear'.symm.trans hc') Bool.false_ne_true⟩

theorem windsDown_sendErrMsg (errMsg : String) : WindsDown c (c.sendErrMsg args errMsg) :=
  ⟨id, fun _ => ⟨rfl, rfl, rfl, .inr rfl⟩⟩

theorem windsDown_sendByeMsgToServer : WindsDown c (c.sendByeMsgToServer args) :=
  ⟨fun _ => rfl, fun _ => ⟨rfl, rfl, rfl, .inl rfl⟩⟩

/-- The expiry, which disarms the timer, and the retransmission or the ERR it
leads to when the loop goes on. -/
theorem windsDown_processTimerEvent (h : ByeDiscipline c)
    (hproceed : ({ c with timer := none }.processTimerEvent args).2 = .proceed) :
    WindsDown c ({ c with timer := none }.processTimerEvent args).1 := by
  unfold processTimerEvent at hproceed ⊢
  split_ifs at hproceed ⊢
  · refine ⟨id, fun hbye => ?_⟩
    obtain ⟨hstdin, -, hreply, hlast⟩ := h hbye
    exact ⟨hstdin, rfl, hreply, hlast⟩
  · exact ⟨fun hbye => (windsDown_sendErrMsg _).1 hbye, (windsDown_sendErrMsg _).2⟩

/-- Stdin is read only while registered, so no BYE is out yet. -/
theorem windsDown_processStdinEvent (h : ByeDiscipline c) (hstdin : c.stdinRegistered = true)
    (event : StdinEvent) : WindsDown c (c.processStdinEvent args event).1 := by
  have hclear : c.isWaitingForByeConfirm = false :=
    h.clear fun hdown => absurd (hdown.stdin_unregistered.symm.trans hstdin) Bool.false_ne_true
  rcases event with (_ | input) | _ | _
  · exact windsDown_of_frame h rfl rfl rfl rfl rfl
  · simp only [processStdinEvent]
    split
    · exact windsDown_of_frame h rfl rfl rfl rfl rfl
    · exact windsDown_of_frame h rfl rfl rfl rfl rfl
    · refine windsDown_of_clear hclear ?_
      cases input <;> simp only [sendUserInput] <;> split_ifs <;> exact hclear
  · exact windsDown_sendByeMsgToServer
  · exact windsDown_of_frame h rfl rfl rfl rfl rfl

/-- A CONFIRM of a BYE or an ERR leaves the client alone; one of another message
can only come while no BYE is out. -/
theorem windsDown_processServerConfirmMsg (h : ByeDiscipline c) :
    WindsDown c (c.processServerConfirmMsg args d).1 := by
  rcases processServerConfirmMsg_cases args c d with
    hsame | herr | ⟨hnotBye, hnotErr, -, -, hbye⟩
  · rw [hsame]; exact windsDown_of_frame h rfl rfl rfl rfl rfl
  · rw [herr]; exact windsDown_sendErrMsg _
  · have hclear := h.clear fun hdown => hdown.bye_or_err.elim hnotBye hnotErr
    exact windsDown_of_clear hclear (hbye.trans hclear)

/-- A REPLY is accepted only while one is awaited, so no BYE is out. -/
theorem windsDown_processServerReplyMsg (h : ByeDiscipline c) :
    WindsDown c (c.processServerReplyMsg args d src) := by
  by_cases hstate : c.currentState = .sAuth ∨ c.currentState = .sJoin
  · by_cases hvalid : isValidReplyMsg d
    · by_cases haccept : c.isWaitingForReply ∧
          (c.msgToServerId.toNat : Int) - 1 = (getRefMsgId d).toNat
      · rw [processServerReplyMsg_of_accepted hstate hvalid haccept.1 haccept.2]
        have hclear := h.clear fun hdown =>
          absurd (hdown.not_waiting_for_reply.symm.trans haccept.1) Bool.false_ne_true
        exact windsDown_of_clear hclear hclear
      · rw [processServerReplyMsg_of_not_accepted hstate hvalid haccept]
        split_ifs <;> exact windsDown_of_frame h rfl rfl rfl rfl rfl
    · rw [processServerReplyMsg_of_malformed hstate hvalid]
      exact windsDown_sendErrMsg _
  · rw [processServerReplyMsg_of_unexpected hstate]
    exact windsDown_sendErrMsg _

theorem windsDown_processServerMsgMsg (h : ByeDiscipline c) :
    WindsDown c (c.processServerMsgMsg args d) := by
  cases hmatch : matchMsgMsg d with
  | some fields =>
      rw [processServerMsgMsg_of_match hmatch]
      split_ifs <;> exact windsDown_of_frame h rfl rfl rfl rfl rfl
  | none =>
      rw [processServerMsgMsg_of_malformed hmatch]
      exact windsDown_sendErrMsg _

theorem windsDown_processServerErrMsg (h : ByeDiscipline c) :
    WindsDown c (c.processServerErrMsg args d).1 := by
  cases hmatch : matchErrMsg d with
  | some fields =>
      rw [processServerErrMsg_of_match hmatch]
      exact windsDown_of_frame h rfl rfl rfl rfl rfl
  | none =>
      rw [processServerErrMsg_of_malformed hmatch]
      exact windsDown_sendErrMsg _

theorem windsDown_processServerByeMsg (h : ByeDiscipline c) :
    WindsDown c (c.processServerByeMsg args d).1 := by
  unfold processServerByeMsg
  split_ifs
  · exact windsDown_of_frame h rfl rfl rfl rfl rfl
  · exact windsDown_sendErrMsg _

theorem windsDown_processServerPingMsg (h : ByeDiscipline c) :
    WindsDown c (c.processServerPingMsg args d) := by
  unfold processServerPingMsg
  split_ifs
  · exact windsDown_of_frame h rfl rfl rfl rfl rfl
  · exact windsDown_sendErrMsg _

theorem windsDown_processMessageFromServer (h : ByeDiscipline c) :
    WindsDown c (c.processMessageFromServer args d src).1 := by
  by_cases hconfirm : msgType d = .mConfirm
  · rw [processMessageFromServer_of_confirm hconfirm]
    exact windsDown_processServerConfirmMsg h
  · unfold processMessageFromServer
    split_ifs
    · exact windsDown_processServerByeMsg h
    · exact windsDown_processServerErrMsg h
    · split <;> split
      all_goals first
        | exact absurd ‹msgType d = .mConfirm› hconfirm
        | with_reducible exact windsDown_processServerReplyMsg h
        | with_reducible exact windsDown_processServerPingMsg h
        | with_reducible exact windsDown_processServerMsgMsg h
        | with_reducible exact windsDown_sendErrMsg _

theorem windsDown_step (h : ByeDiscipline c) {e : Event} (henabled : e.enabled c)
    (hproceed : (step args c e).2 = .proceed) : WindsDown c (step args c e).1 := by
  cases e with
  | stdin event => exact windsDown_processStdinEvent h henabled event
  | timerExpired => exact windsDown_processTimerEvent h hproceed
  | sigint => exact windsDown_sendByeMsgToServer
  | datagram src bytes =>
      simp only [step, processSocketEvent]
      split_ifs
      · exact windsDown_sendErrMsg _
      · exact windsDown_processMessageFromServer h
  | recvFailed => exact windsDown_sendErrMsg _

/-- The CONFIRM of the message that waits for it ends the session: with success
after the BYE, with failure after an ERR. -/
theorem step_confirm_of_windingDown (hdown : WindingDown c) (src : SockAddr) :
    (step args c (.datagram src (BinaryMsg.confirm.encode c.msgToServerId))).2 =
      if c.lastMsgType = ProtocolMsgType.mBye.code then .exitSuccess else .exitFailure := by
  have hlength : (BinaryMsg.confirm.encode c.msgToServerId).length = 3 := rfl
  have htype : msgType (BinaryMsg.confirm.encode c.msgToServerId) = .mConfirm := rfl
  have htake : (BinaryMsg.confirm.encode c.msgToServerId).take (sMaxMsgSize + 1) =
      BinaryMsg.confirm.encode c.msgToServerId :=
    List.take_of_length_le (by rw [hlength]; decide)
  simp only [step, processSocketEvent, htake, hlength]
  rw [if_neg (by decide), processMessageFromServer_of_confirm htype]
  simp only [processServerConfirmMsg, isValidConfirmMsg_encode, getMsgId_encode, if_true]
  rcases hdown.bye_or_err with hlast | hlast <;> simp [hlast, ProtocolMsgType.code]

end UdpClient

theorem Reachable.byeDiscipline {args : Args} {c : UdpClient} (h : Reachable args c) :
    ByeDiscipline c := by
  induction h with
  | init => nofun
  | step _ henabled hproceed ih => exact (UdpClient.windsDown_step ih henabled hproceed).2

open UdpClient in
/-- Once the BYE is out the session only winds down (`WindingDown`): the CONFIRM
of the last message ends it, with success after the BYE and failure after an
ERR, and no wake that goes on clears the wait. -/
theorem bye_wait_winds_down {args : Args} {c : UdpClient} (h : Reachable args c)
    (hbye : c.isWaitingForByeConfirm = true) :
    WindingDown c ∧
      (∀ src, (step args c (.datagram src (BinaryMsg.confirm.encode c.msgToServerId))).2 =
        if c.lastMsgType = ProtocolMsgType.mBye.code then .exitSuccess else .exitFailure) ∧
      ∀ e, e.enabled c → (step args c e).2 = .proceed →
        (step args c e).1.isWaitingForByeConfirm = true :=
  have hdown := h.byeDiscipline hbye
  ⟨hdown, step_confirm_of_windingDown hdown,
    fun _ henabled hproceed => (windsDown_step h.byeDiscipline henabled hproceed).1 hbye⟩

/-- SIGINT right after the start: the BYE goes out with id 1, and its CONFIRM
ends the session with success. -/
theorem sigint_bye_confirmed :
    (step exampleArgs (UdpClient.init exampleArgs) .sigint).1.isWaitingForByeConfirm = true ∧
      (step exampleArgs (step exampleArgs (UdpClient.init exampleArgs) .sigint).1
        (.datagram sessionPort (BinaryMsg.confirm.encode 1))).2 = .exitSuccess :=
  have hreach : Reachable exampleArgs (step exampleArgs (UdpClient.init exampleArgs) .sigint).1 :=
    .step .init (by decide) (by decide)
  ⟨rfl, (bye_wait_winds_down hreach rfl).2.1 sessionPort⟩


/-! Every way a wake of the loop leaves it, when every `sendto()` succeeds. -/

/-- How a wake that reads the datagram `d` from `c` leaves `run`, with the state
it leaves behind. -/
inductive DatagramExit (c : UdpClient) (d : Bytes) : UdpClient × Verdict → Prop
  | bye (hvalid : isValidByeMsg d = true) :
      DatagramExit c d (c.sendConfirmMsg (getMsgId d), .exitSuccess)
  | err {displayName content : Bytes} (hmatch : matchErrMsg d = some (displayName, content)) :
      DatagramExit c d
        ((c.emit (.output (.errFromServer displayName content))).sendConfirmMsg (getMsgId d),
          .exitFailure)
  | byeConfirmed (hvalid : isValidConfirmMsg d = true) (hid : getMsgId d = c.msgToServerId)
      (hlast : c.lastMsgType = ProtocolMsgType.mBye.code) : DatagramExit c d (c, .exitSuccess)
  | errConfirmed (hvalid : isValidConfirmMsg d = true) (hid : getMsgId d = c.msgToServerId)
      (hlast : c.lastMsgType = ProtocolMsgType.mErr.code) : DatagramExit c d (c, .exitFailure)

/-- The exceptions a wake on `e` from `c` throws when every `sendto()` succeeds,
with their explanations. -/
inductive Throws (c : UdpClient) : Event → String → Prop
  | stdinError : Throws c (.stdin .error) "stdin error occurred."
  | exhausted (hwaiting : (c.isWaitingForConfirm || c.isWaitingForByeConfirm) = true)
      (hbudget : c.allowedRetransmissions = 0) :
      Throws c .timerExpired "exceeded udp max retransmission number."
  | unexpectedTimer (hconfirm : (c.isWaitingForConfirm || c.isWaitingForByeConfirm) = false)
      (hreply : c.isWaitingForReply = false) :
      Throws c .timerExpired
        "timer event, but m_is_waiting_for_confirm and m_is_waiting_for_reply are false."

namespace UdpClient

variable {args : Args} {c : UdpClient} {d : Bytes} {src : SockAddr}

theorem processServerConfirmMsg_ends :
    (c.processServerConfirmMsg args d).2 = .proceed ∨
      DatagramExit c d (c.processServerConfirmMsg args d) := by
  by_cases hvalid : isValidConfirmMsg d
  · by_cases hid : getMsgId d = c.msgToServerId
    · unfold processServerConfirmMsg
      rw [if_pos hvalid, if_pos hid]
      split_ifs with hbye herr
      all_goals first
        | exact .inr (.byeConfirmed hvalid hid hbye)
        | exact .inr (.errConfirmed hvalid hid herr)
        | exact .inl (by split <;> rfl)
    · rw [processServerConfirmMsg_of_ne_id hvalid hid]
      exact .inl rfl
  · unfold processServerConfirmMsg
    rw [if_neg hvalid]
    exact .inl rfl

theorem processMessageFromServer_ends :
    (c.processMessageFromServer args d src).2 = .proceed ∨
      DatagramExit c d (c.processMessageFromServer args d src) := by
  refine processMessageFromServer_of_handlers (P := fun r => r.2 = .proceed ∨ DatagramExit c d r)
    ?_ ?_ processServerConfirmMsg_ends (.inl rfl) (.inl rfl) (.inl rfl) fun _ => .inl rfl
  · unfold processServerByeMsg
    split_ifs with hvalid
    · exact .inr (.bye hvalid)
    · exact .inl rfl
  · cases hmatch : matchErrMsg d with
    | some fields =>
        rw [processServerErrMsg_of_match hmatch]
        exact .inr (.err hmatch)
    | none =>
        rw [processServerErrMsg_of_malformed hmatch]
        exact .inl rfl

end UdpClient

/-- When every `sendto()` succeeds, a wake goes on, leaves `run` on a datagram as
`DatagramExit` lists, or throws as `Throws` lists, writing nothing. -/
theorem step_ends (args : Args) (c : UdpClient) (e : Event) :
    (step args c e).2 = .proceed ∨
      (∃ src d, e = .datagram src d ∧ DatagramExit c d (step args c e)) ∨
      ∃ msg, Throws c e msg ∧ (step args c e).2 = .raise msg ∧ (step args c e).1.log = c.log := by
  refine step_of_handlers
    (P := fun r => r.2 = .proceed ∨ (∃ src d, e = .datagram src d ∧ DatagramExit c d r) ∨
      ∃ msg, Throws c e msg ∧ r.2 = .raise msg ∧ r.1.log = c.log)
    (fun event he => ?_) (fun he => ?_) (fun _ => .inl rfl)
    (fun src d he _ => UdpClient.processMessageFromServer_ends.imp_right
      fun hexit => .inl ⟨src, d, he, hexit⟩)
    fun _ => .inl rfl
  · subst he
    rcases event with (_ | input) | _ | _
    · exact .inl rfl
    · left
      simp only [UdpClient.processStdinEvent]
      split <;> rfl
    · exact .inl rfl
    · exact .inr (.inr ⟨_, .stdinError, rfl, rfl⟩)
  · subst he
    simp only [UdpClient.processTimerEvent]
    split_ifs with hwaiting hbudget hreply
    · exact .inr (.inr ⟨_, .exhausted hwaiting hbudget, rfl, rfl⟩)
    · exact .inl rfl
    · exact .inl rfl
    · exact .inr (.inr ⟨_, .unexpectedTimer (Bool.eq_false_iff.mpr hwaiting)
        (Bool.eq_false_iff.mpr hreply), rfl, rfl⟩)

end IpkChat.Udp
