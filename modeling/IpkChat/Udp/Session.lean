import IpkChat.Udp.Client

namespace IpkChat.Udp

/-! Whole runs of the UDP session, and the branch lemmas of its handlers. -/

/-- The datagrams among some effects, without their destinations. -/
def datagrams (effects : List Effect) : List Bytes :=
  effects.filterMap fun
    | .sendTo _ bytes => some bytes
    | .output _ => none

/-- What one wake of the loop appends to the log. -/
def stepEffects (args : Args) (c : UdpClient) (e : Event) : List Effect :=
  (step args c e).1.log.drop c.log.length

@[simp] theorem datagrams_nil : datagrams [] = [] := rfl

@[simp] theorem datagrams_append (xs ys : List Effect) :
    datagrams (xs ++ ys) = datagrams xs ++ datagrams ys := List.filterMap_append _ _ _

@[simp] theorem datagrams_sendTo (dest : SockAddr) (bytes : Bytes) (effects : List Effect) :
    datagrams (.sendTo dest bytes :: effects) = bytes :: datagrams effects := rfl

@[simp] theorem datagrams_output (line : Output) (effects : List Effect) :
    datagrams (.output line :: effects) = datagrams effects := rfl

section Observe

variable {args : Args}

/-- A state that a concrete list of events reaches is reachable; `P` is then
decided on it by evaluation. -/
theorem Reachable.exists_of_execute {c : UdpClient} (es : List Event) {P : UdpClient → Prop}
    [DecidablePred P] (hc : Reachable args c)
    (h : (execute args c es).any (fun c => decide (P c)) = true) :
    ∃ c', Reachable args c' ∧ P c' := by
  cases hexec : execute args c es with
  | none => rw [hexec] at h; cases h
  | some c' =>
      rw [hexec] at h
      exact ⟨c', hc.of_execute args hexec, of_decide_eq_true h⟩

end Observe

/-! One lemma per handler branch, cited instead of unfolding the handler. -/

namespace UdpClient

attribute [simp] emit startTimer stopTimer disableStdinEvents enableStdinEvents sendMsgToServer
  sendConfirmMsg buildErrMsg buildByeMsg

variable {args : Args} {c : UdpClient} {d : Bytes} {src : SockAddr}

theorem processMessageFromServer_of_bye (htype : msgType d = .mBye) :
    c.processMessageFromServer args d src = c.processServerByeMsg args d := by
  simp only [processMessageFromServer, htype, if_true]

theorem processMessageFromServer_of_err (htype : msgType d = .mErr) :
    c.processMessageFromServer args d src = c.processServerErrMsg args d := by
  simp only [processMessageFromServer, htype, if_true, reduceCtorEq, if_false]

theorem processMessageFromServer_of_confirm (htype : msgType d = .mConfirm) :
    c.processMessageFromServer args d src = c.processServerConfirmMsg args d := by
  cases hs : c.currentState <;>
    simp only [processMessageFromServer, htype, hs, reduceCtorEq, if_false]

theorem processMessageFromServer_of_reply (htype : msgType d = .mReply)
    (hstate : c.currentState = .sAuth ∨ c.currentState = .sJoin) :
    c.processMessageFromServer args d src = (c.processServerReplyMsg args d src, .proceed) := by
  rcases hstate with hs | hs <;>
    simp only [processMessageFromServer, htype, hs, reduceCtorEq, if_false]

theorem processMessageFromServer_of_ping (htype : msgType d = .mPing)
    (hstate : c.currentState ≠ .sStart) :
    c.processMessageFromServer args d src = (c.processServerPingMsg args d, .proceed) := by
  cases hs : c.currentState <;>
    simp_all only [processMessageFromServer, reduceCtorEq, if_false, ne_eq, not_true_eq_false]

theorem processMessageFromServer_of_msg (htype : msgType d = .mMsg)
    (hstate : c.currentState = .sOpen ∨ c.currentState = .sJoin) :
    c.processMessageFromServer args d src = (c.processServerMsgMsg args d, .proceed) := by
  rcases hstate with hs | hs <;>
    simp only [processMessageFromServer, htype, hs, reduceCtorEq, if_false]

/-- What holds of the result of every handler `processMessageFromServer`
dispatches to, and of the ERR it sends for a type the phase does not receive,
holds of its own result. -/
theorem processMessageFromServer_of_handlers {P : UdpClient × Verdict → Prop}
    (hbye : P (c.processServerByeMsg args d)) (herr : P (c.processServerErrMsg args d))
    (hconfirm : P (c.processServerConfirmMsg args d))
    (hreply : P (c.processServerReplyMsg args d src, .proceed))
    (hping : P (c.processServerPingMsg args d, .proceed))
    (hmsg : P (c.processServerMsgMsg args d, .proceed))
    (hunexpected : ∀ errMsg, P (c.sendErrMsg args errMsg, .proceed)) :
    P (c.processMessageFromServer args d src) := by
  unfold processMessageFromServer
  split_ifs
  · exact hbye
  · exact herr
  · split <;> split
    all_goals first
      | with_reducible exact hconfirm
      | with_reducible exact hreply
      | with_reducible exact hping
      | with_reducible exact hmsg
      | exact hunexpected _

theorem processServerByeMsg_of_valid (hvalid : isValidByeMsg d) :
    c.processServerByeMsg args d = (c.sendConfirmMsg (getMsgId d), .exitSuccess) := by
  simp only [processServerByeMsg, hvalid, if_true]

theorem processServerErrMsg_of_match {displayName content : Bytes}
    (hmatch : matchErrMsg d = some (displayName, content)) :
    c.processServerErrMsg args d =
      ((c.emit (.output (.errFromServer displayName content))).sendConfirmMsg (getMsgId d),
        .exitFailure) := by
  unfold processServerErrMsg isValidErrMsg
  rw [hmatch]

theorem processServerPingMsg_of_valid (hvalid : isValidPingMsgLength d.length) :
    c.processServerPingMsg args d = c.sendConfirmMsg (getMsgId d) := by
  simp only [processServerPingMsg, hvalid, if_true]

theorem processServerMsgMsg_of_match {displayName content : Bytes}
    (hmatch : matchMsgMsg d = some (displayName, content)) :
    c.processServerMsgMsg args d =
      (if getMsgId d ∈ c.confirmedServerMessages then c
        else c.emit (.output (.incomingMsg displayName content))).sendConfirmMsg (getMsgId d) := by
  unfold processServerMsgMsg isValidMsgMsg
  rw [hmatch]

theorem processServerErrMsg_of_malformed (hmatch : matchErrMsg d = none) :
    c.processServerErrMsg args d =
      (c.sendErrMsg args "ERROR: received a malformed ERR message from the server.", .proceed) := by
  unfold processServerErrMsg isValidErrMsg
  rw [hmatch]

theorem processServerMsgMsg_of_malformed (hmatch : matchMsgMsg d = none) :
    c.processServerMsgMsg args d =
      c.sendErrMsg args "ERROR: received a malformed MSG message from the server." := by
  unfold processServerMsgMsg isValidMsgMsg
  rw [hmatch]

/-- A REPLY outside `S_AUTH` and `S_JOIN` is answered with an ERR. -/
theorem processServerReplyMsg_of_unexpected
    (hstate : ¬(c.currentState = .sAuth ∨ c.currentState = .sJoin)) :
    c.processServerReplyMsg args d src =
      c.sendErrMsg args "ERROR: received a REPLY message in unexpected state." := by
  unfold processServerReplyMsg
  exact if_pos (not_or.mp hstate)

/-- A malformed REPLY in `S_AUTH` or `S_JOIN` is answered with an ERR. -/
theorem processServerReplyMsg_of_malformed
    (hstate : c.currentState = .sAuth ∨ c.currentState = .sJoin) (hvalid : ¬isValidReplyMsg d) :
    c.processServerReplyMsg args d src =
      c.sendErrMsg args "ERROR: received a malformed REPLY message from the server." := by
  unfold processServerReplyMsg
  rw [if_neg (or_iff_not_and_not.mp hstate), if_neg hvalid]

/-- A REPLY accepted as the answer to the outstanding request. -/
theorem processServerReplyMsg_of_accepted
    (hstate : c.currentState = .sAuth ∨ c.currentState = .sJoin) (hvalid : isValidReplyMsg d)
    (hwaiting : c.isWaitingForReply)
    (href : (c.msgToServerId.toNat : Int) - 1 = (getRefMsgId d).toNat) :
    c.processServerReplyMsg args d src =
      let dest := if c.currentState = .sAuth then src else c.serverAddr
      { c with
        serverAddr := dest
        timer := none
        log := c.log ++
          (if getMsgId d ∈ c.confirmedServerMessages then []
            else [.output (.incomingReply (replyResult d) (replyContent d))]) ++
          [.sendTo dest (layout .mConfirm (getMsgId d) [])]
        confirmedServerMessages := c.confirmedServerMessages.insert (getMsgId d)
        currentState :=
          if c.currentState = .sJoin ∨ replyResult d then .sOpen else c.currentState
        isWaitingForReply := false
        stdinRegistered := true } := by
  unfold processServerReplyMsg
  rw [if_neg (or_iff_not_and_not.mp hstate), if_pos hvalid]
  rcases hstate with hs | hs <;>
    by_cases hmem : getMsgId d ∈ c.confirmedServerMessages <;>
    cases hr : replyResult d <;> simp [hs, hmem, hr, hwaiting, href]

/-- A REPLY that is not accepted changes at most the destination address. -/
theorem processServerReplyMsg_of_not_accepted
    (hstate : c.currentState = .sAuth ∨ c.currentState = .sJoin) (hvalid : isValidReplyMsg d)
    (hignored : ¬(c.isWaitingForReply ∧
      (c.msgToServerId.toNat : Int) - 1 = (getRefMsgId d).toNat)) :
    c.processServerReplyMsg args d src =
      if c.currentState = .sAuth then { c with serverAddr := src } else c := by
  unfold processServerReplyMsg
  rw [if_neg (or_iff_not_and_not.mp hstate), if_pos hvalid]
  by_cases hauth : c.currentState = .sAuth <;> simp only [hauth, if_true, if_false] <;>
    exact if_neg hignored

theorem serverAddr_sendErrMsg (errMsg : String) : (c.sendErrMsg args errMsg).serverAddr = c.serverAddr := by
  dsimp only [sendErrMsg, buildErrMsg, emit, sendMsgToServer, disableStdinEvents, startTimer]

/-- `processServerReplyMsg` rebinds the destination to the source of every
well-formed REPLY it reads in `S_AUTH`, before it looks at the wait and the ref
id; nothing else it does moves the destination. -/
theorem serverAddr_processServerReplyMsg :
    (c.processServerReplyMsg args d src).serverAddr =
      if c.currentState = .sAuth ∧ isValidReplyMsg d then src else c.serverAddr := by
  by_cases hstate : c.currentState = .sAuth ∨ c.currentState = .sJoin
  · by_cases hvalid : isValidReplyMsg d
    · by_cases haccepted :
          c.isWaitingForReply ∧ (c.msgToServerId.toNat : Int) - 1 = (getRefMsgId d).toNat
      · rw [processServerReplyMsg_of_accepted hstate hvalid haccepted.1 haccepted.2]
        by_cases hauth : c.currentState = .sAuth <;> simp [hauth, hvalid]
      · rw [processServerReplyMsg_of_not_accepted hstate hvalid haccepted]
        by_cases hauth : c.currentState = .sAuth <;> simp [hauth, hvalid]
    · rw [processServerReplyMsg_of_malformed hstate hvalid, serverAddr_sendErrMsg, if_neg (by simp [hvalid])]
  · rw [processServerReplyMsg_of_unexpected hstate, serverAddr_sendErrMsg,
      if_neg fun h => hstate (.inl h.1)]

/-- What a CONFIRM does: nothing (an exit, or an id that is not the outstanding
one), an ERR on a malformed one, or, for the CONFIRM of an AUTH, a MSG or a JOIN,
an update of the waits that writes nothing and keeps the BYE wait. -/
theorem processServerConfirmMsg_cases (args : Args) (c : UdpClient) (d : Bytes) :
    (c.processServerConfirmMsg args d).1 = c ∨
      (c.processServerConfirmMsg args d).1 =
        c.sendErrMsg args "ERROR: received a malformed CONFIRM message from the server." ∨
      c.lastMsgType ≠ ProtocolMsgType.mBye.code ∧ c.lastMsgType ≠ ProtocolMsgType.mErr.code ∧
        (c.processServerConfirmMsg args d).1.log = c.log ∧
        (c.processServerConfirmMsg args d).1.confirmedServerMessages = c.confirmedServerMessages ∧
        (c.processServerConfirmMsg args d).1.isWaitingForByeConfirm = c.isWaitingForByeConfirm := by
  unfold processServerConfirmMsg
  by_cases hvalid : isValidConfirmMsg d
  · rw [if_pos hvalid]
    by_cases hid : getMsgId d = c.msgToServerId
    · rw [if_pos hid]
      split_ifs with hbye herr
      all_goals first
        | with_reducible exact .inl rfl
        | exact .inr (.inr ⟨hbye, herr, by split <;> rfl, by split <;> rfl, by split <;> rfl⟩)
    · rw [if_neg hid]
      exact .inl rfl
  · rw [if_neg hvalid]
    exact .inr (.inl rfl)

/-- A well-formed CONFIRM whose id is not `m_msg_to_server_id` changes nothing. -/
theorem processServerConfirmMsg_of_ne_id (hvalid : isValidConfirmMsg d)
    (hid : getMsgId d ≠ c.msgToServerId) : c.processServerConfirmMsg args d = (c, .proceed) := by
  unfold processServerConfirmMsg
  rw [if_pos hvalid, if_neg hid]

/-- A well-formed CONFIRM with the id `m_msg_to_server_id`, in `S_AUTH` after
an AUTH was built, runs the branch of the AUTH's CONFIRM whatever the waits
are: the REPLY wait starts again with a fresh budget and the counter advances. -/
theorem processServerConfirmMsg_of_auth (hvalid : isValidConfirmMsg d)
    (hid : getMsgId d = c.msgToServerId) (hstate : c.currentState = .sAuth)
    (hlast : c.lastMsgType = ProtocolMsgType.mAuth.code) :
    c.processServerConfirmMsg args d =
      ({ c with
          isWaitingForConfirm := false
          isWaitingForReply := true
          allowedRetransmissions := args.udpMaxRetransCount
          msgToServerId := c.msgToServerId + 1 }.startTimer (sMaxReplyWaitTime * 1000), .proceed) := by
  have hbye : c.lastMsgType ≠ ProtocolMsgType.mBye.code := by rw [hlast]; decide
  have herr : c.lastMsgType ≠ ProtocolMsgType.mErr.code := by rw [hlast]; decide
  unfold processServerConfirmMsg
  rw [if_pos hvalid, if_pos hid, if_neg hbye, if_neg herr, hstate]
  exact if_pos hlast

/-- The CONFIRM of a JOIN in `S_OPEN` moves the phase to `S_JOIN` and starts the
wait for the REPLY. -/
theorem processServerConfirmMsg_of_join (hvalid : isValidConfirmMsg d)
    (hid : getMsgId d = c.msgToServerId) (hstate : c.currentState = .sOpen)
    (hlast : c.lastMsgType = ProtocolMsgType.mJoin.code) :
    c.processServerConfirmMsg args d =
      ({ c with
          isWaitingForConfirm := false
          isWaitingForReply := true
          allowedRetransmissions := args.udpMaxRetransCount
          msgToServerId := c.msgToServerId + 1
          currentState := .sJoin }.startTimer (sMaxReplyWaitTime * 1000), .proceed) := by
  have hbye : c.lastMsgType ≠ ProtocolMsgType.mBye.code := by rw [hlast]; decide
  have herr : c.lastMsgType ≠ ProtocolMsgType.mErr.code := by rw [hlast]; decide
  have hmsg : c.lastMsgType ≠ ProtocolMsgType.mMsg.code := by rw [hlast]; decide
  unfold processServerConfirmMsg
  rw [if_pos hvalid, if_pos hid, if_neg hbye, if_neg herr, hstate]
  exact (if_neg hmsg).trans (if_pos hlast)

end UdpClient

/-- `-t udp -s 127.0.0.1` with the default port, confirm timeout (250 ms) and
retransmission count (3). -/
def exampleArgs : Args := { serverAddr := ⟨0x7F000001, 4567⟩ }

/-- The port the server answers from once a session is open. -/
def sessionPort : SockAddr := ⟨0x7F000001, 55123⟩

def authCommand (username : String) : Event :=
  .stdin (.readable (some (.auth (ascii username) (ascii "SeCrEt42") (ascii "Alice_Wonder"))))

def joinCommand : Event := .stdin (.readable (some (.join (ascii "general"))))

/-- A negative REPLY with id 7 to the request with id 0. -/
def negativeReply : Bytes := [0x01, 0, 7, 0, 0, 0] ++ ascii "NOK" ++ [0]

/-- A positive REPLY with id 7 to the request with id 0. -/
def positiveReply : Bytes := [0x01, 0, 7, 1, 0, 0] ++ ascii "OK" ++ [0]

end IpkChat.Udp
