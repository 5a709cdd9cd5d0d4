import IpkChat.Udp.Session

namespace IpkChat.Udp

/-! Acknowledgement of server messages and duplicate suppression in `Udp_client`. -/

/-- The message types each phase receives: the gate `processMessageFromServer` implements. -/
def mayReceive : FsmState → ProtocolMsgType → Bool
  | _, .mBye | _, .mErr | _, .mConfirm => true
  | .sAuth, .mReply | .sJoin, .mReply => true
  | .sAuth, .mPing | .sOpen, .mPing | .sJoin, .mPing => true
  | .sOpen, .mMsg | .sJoin, .mMsg => true
  | _, _ => false

/-- The datagram passes the check of the handler its type byte selects. -/
def wellFormed (d : Bytes) : Bool :=
  match msgType d with
  | .mMsg => (matchMsgMsg d).isSome
  | .mErr => (matchErrMsg d).isSome
  | .mBye => isValidByeMsg d
  | .mPing => isValidPingMsgLength d.length
  | .mReply => isValidReplyMsg d
  | .mConfirm => isValidConfirmMsg d
  | _ => false

def isShown : Effect → Bool
  | .sendTo .. => false
  | .output line => line.isIncoming

@[simp] theorem isShown_sendTo (dest : SockAddr) (bytes : Bytes) :
    isShown (.sendTo dest bytes) = false := rfl

@[simp] theorem isShown_output (line : Output) : isShown (.output line) = line.isIncoming := rfl

/-- The incoming MSG and REPLY lines of a log. -/
def shownMessages (log : List Effect) : List Effect := log.filter isShown

/-- `c'` shows no more than `c` and has confirmed at least what `c` has. -/
def Quiet (c c' : UdpClient) : Prop :=
  shownMessages c'.log = shownMessages c.log ∧
    c.confirmedServerMessages ⊆ c'.confirmedServerMessages

/-- `c'` has confirmed `id`, which `c` had not, and everything `c` had. -/
def Shows (c c' : UdpClient) (id : UInt16) : Prop :=
  id ∉ c.confirmedServerMessages ∧ id ∈ c'.confirmedServerMessages ∧
    c.confirmedServerMessages ⊆ c'.confirmedServerMessages

/-- The datagram of `e` makes the client show an incoming MSG or REPLY; `id` is the
message id of the bytes `recvfrom` read. -/
def ShowsMessage (args : Args) (c : UdpClient) (e : Event) (id : UInt16) : Prop :=
  ∃ src datagram, e = .datagram src datagram ∧
    getMsgId (datagram.take (sMaxMsgSize + 1)) = id ∧
    shownMessages (step args c e).1.log ≠ shownMessages c.log

theorem Quiet.trans {c c₁ c₂ : UdpClient} (h₁ : Quiet c c₁) (h₂ : Quiet c₁ c₂) : Quiet c c₂ :=
  ⟨h₂.1.trans h₁.1, h₁.2.trans h₂.2⟩

namespace UdpClient

variable {args : Args} {c c₁ : UdpClient} {d : Bytes} {src : SockAddr} {id : UInt16}

theorem quiet_of_frame (hlog : c₁.log = c.log)
    (hconfirmed : c₁.confirmedServerMessages = c.confirmedServerMessages) : Quiet c c₁ :=
  ⟨by rw [hlog], hconfirmed ▸ List.Subset.refl _⟩

theorem quiet_emit_output {line : Output} (hline : line.isIncoming = false) :
    Quiet c (c.emit (.output line)) :=
  ⟨by simp [shownMessages, hline], List.Subset.refl _⟩

theorem quiet_sendConfirmMsg (k : UInt16) : Quiet c (c.sendConfirmMsg k) := by
  simp [Quiet, shownMessages, Output.isIncoming, List.subset_insert]

theorem quiet_sendErrMsg (errMsg : String) : Quiet c (c.sendErrMsg args errMsg) := by
  simp [Quiet, sendErrMsg, shownMessages, Output.isIncoming]

theorem quiet_sendByeMsgToServer : Quiet c (c.sendByeMsgToServer args) := by
  simp [Quiet, sendByeMsgToServer, shownMessages, Output.isIncoming]

theorem quiet_processTimerEvent : Quiet c (c.processTimerEvent args).1 := by
  unfold processTimerEvent
  split_ifs
  · exact quiet_of_frame rfl rfl
  · simp [Quiet, shownMessages, Output.isIncoming]
  · exact quiet_sendErrMsg _
  · exact quiet_of_frame rfl rfl

theorem quiet_sendUserInput (input : UserInput) : Quiet c (c.sendUserInput args input) := by
  cases input <;> simp [Quiet, sendUserInput, buildUserMsgToServer, buildAuthMsg, buildJoinMsg,
    buildMsgMsg, shownMessages, Output.isIncoming] <;> split_ifs <;> simp

theorem quiet_processStdinEvent (event : StdinEvent) :
    Quiet c (c.processStdinEvent args event).1 := by
  rcases event with (_ | input) | _ | _
  · exact quiet_of_frame rfl rfl
  · simp only [processStdinEvent]
    cases haction : processNonMsgToServer c.currentState input with
    | send => exact quiet_sendUserInput input
    | rename displayName => exact quiet_of_frame rfl rfl
    | print line =>
        refine ⟨?_, List.Subset.refl _⟩
        simp [shownMessages, processNonMsgToServer_print haction]
  · exact quiet_sendByeMsgToServer
  · exact quiet_of_frame rfl rfl

theorem quiet_processServerConfirmMsg : Quiet c (c.processServerConfirmMsg args d).1 := by
  rcases processServerConfirmMsg_cases args c d with
    hsame | herr | ⟨-, -, hlog, hconfirmed, -⟩
  · rw [hsame]; exact quiet_of_frame rfl rfl
  · rw [herr]; exact quiet_sendErrMsg _
  · exact quiet_of_frame hlog hconfirmed

theorem quiet_processServerByeMsg : Quiet c (c.processServerByeMsg args d).1 := by
  unfold processServerByeMsg
  split_ifs
  · exact quiet_sendConfirmMsg _
  · exact quiet_sendErrMsg _

theorem quiet_processServerErrMsg : Quiet c (c.processServerErrMsg args d).1 := by
  cases hmatch : matchErrMsg d with
  | some fields =>
      rw [processServerErrMsg_of_match hmatch]
      exact (quiet_emit_output
        (show (Output.errFromServer fields.1 fields.2).isIncoming = false from rfl)).trans
        (quiet_sendConfirmMsg _)
  | none =>
      rw [processServerErrMsg_of_malformed hmatch]
      exact quiet_sendErrMsg _

theorem quiet_processServerPingMsg : Quiet c (c.processServerPingMsg args d) := by
  unfold processServerPingMsg
  split_ifs
  · exact quiet_sendConfirmMsg _
  · exact quiet_sendErrMsg _

theorem shows_of_mem_insert (hnew : id ∉ c.confirmedServerMessages)
    (hconfirmed : c₁.confirmedServerMessages = c.confirmedServerMessages.insert id) :
    Shows c c₁ id :=
  ⟨hnew, by simp [hconfirmed], by rw [hconfirmed]; exact List.subset_insert _ _⟩

theorem processServerMsgMsg_quiet_or_shows :
    Quiet c (c.processServerMsgMsg args d) ∨ Shows c (c.processServerMsgMsg args d) (getMsgId d) := by
  cases hmatch : matchMsgMsg d with
  | some fields =>
      rw [processServerMsgMsg_of_match hmatch]
      by_cases hmem : getMsgId d ∈ c.confirmedServerMessages
      · exact .inl (by rw [if_pos hmem]; exact quiet_sendConfirmMsg _)
      · exact .inr (shows_of_mem_insert hmem (by simp [hmem]))
  | none =>
      rw [processServerMsgMsg_of_malformed hmatch]
      exact .inl (quiet_sendErrMsg _)

theorem processServerReplyMsg_quiet_or_shows :
    Quiet c (c.processServerReplyMsg args d src) ∨
      Shows c (c.processServerReplyMsg args d src) (getMsgId d) := by
  by_cases hstate : c.currentState = .sAuth ∨ c.currentState = .sJoin
  · by_cases hvalid : isValidReplyMsg d
    · by_cases haccept : c.isWaitingForReply ∧
          (c.msgToServerId.toNat : Int) - 1 = (getRefMsgId d).toNat
      · rw [processServerReplyMsg_of_accepted hstate hvalid haccept.1 haccept.2]
        by_cases hmem : getMsgId d ∈ c.confirmedServerMessages
        · exact .inl ⟨by simp [hmem, shownMessages], by simp [List.subset_insert]⟩
        · exact .inr (shows_of_mem_insert hmem rfl)
      · rw [processServerReplyMsg_of_not_accepted hstate hvalid haccept]
        exact .inl (by split_ifs <;> exact quiet_of_frame rfl rfl)
    · rw [processServerReplyMsg_of_malformed hstate hvalid]
      exact .inl (quiet_sendErrMsg _)
  · rw [processServerReplyMsg_of_unexpected hstate]
    exact .inl (quiet_sendErrMsg _)

theorem processMessageFromServer_quiet_or_shows :
    Quiet c (c.processMessageFromServer args d src).1 ∨
      Shows c (c.processMessageFromServer args d src).1 (getMsgId d) := by
  unfold processMessageFromServer
  split_ifs
  · exact .inl quiet_processServerByeMsg
  · exact .inl quiet_processServerErrMsg
  · split <;> split
    all_goals first
      | with_reducible exact .inl quiet_processServerConfirmMsg
      | with_reducible exact processServerReplyMsg_quiet_or_shows
      | with_reducible exact .inl quiet_processServerPingMsg
      | with_reducible exact processServerMsgMsg_quiet_or_shows
      | with_reducible exact .inl (quiet_sendErrMsg _)

end UdpClient

open UdpClient in
/-- Every step is quiet, except one that takes a datagram and confirms its id for
the first time. -/
theorem step_quiet_or_shows (args : Args) (c : UdpClient) (e : Event) :
    Quiet c (step args c e).1 ∨ ∃ src datagram, e = .datagram src datagram ∧
      Shows c (step args c e).1 (getMsgId (datagram.take (sMaxMsgSize + 1))) := by
  cases e with
  | stdin event => exact .inl (quiet_processStdinEvent event)
  | timerExpired =>
      have hquiet : Quiet { c with timer := none } ({ c with timer := none }.processTimerEvent args).1 :=
        quiet_processTimerEvent
      exact .inl ((quiet_of_frame rfl rfl).trans hquiet)
  | sigint => exact .inl quiet_sendByeMsgToServer
  | datagram src bytes =>
      simp only [step, processSocketEvent]
      split_ifs
      · exact .inl (quiet_sendErrMsg _)
      · exact processMessageFromServer_quiet_or_shows.imp_right fun h => ⟨src, bytes, rfl, h⟩
  | recvFailed => exact .inl (quiet_sendErrMsg _)

theorem step_confirmed_subset (args : Args) (c : UdpClient) (e : Event) :
    c.confirmedServerMessages ⊆ (step args c e).1.confirmedServerMessages := by
  rcases step_quiet_or_shows args c e with h | ⟨_, _, _, h⟩
  · exact h.2
  · exact h.2.2

theorem execute_confirmed_subset (args : Args) {c c' : UdpClient} {es : List Event}
    (h : execute args c es = some c') :
    c.confirmedServerMessages ⊆ c'.confirmedServerMessages := by
  induction es generalizing c with
  | nil => cases h; exact List.Subset.refl _
  | cons e es ih =>
      simp only [execute] at h
      split at h
      · exact (step_confirmed_subset args c e).trans (ih h)
      · cases h

/-- A step that shows a message confirms its id for the first time. -/
theorem ShowsMessage.shows {args : Args} {c : UdpClient} {e : Event} {id : UInt16}
    (h : ShowsMessage args c e id) : Shows c (step args c e).1 id := by
  obtain ⟨src, datagram, rfl, rfl, hshown⟩ := h
  rcases step_quiet_or_shows args c (.datagram src datagram) with hquiet | ⟨_, _, he, hshows⟩
  · exact absurd hquiet.1 hshown
  · cases he
    exact hshows

end IpkChat.Udp

namespace IpkChat.Udp

open UdpClient

section Acknowledge

variable (args : Args)

theorem mayReceive_ping {state : FsmState} (h : mayReceive state .mPing = true) :
    state ≠ .sStart := by
  rintro rfl
  cases h

theorem mayReceive_msg {state : FsmState} (h : mayReceive state .mMsg = true) :
    state = .sOpen ∨ state = .sJoin := by
  revert h
  cases state <;> decide

theorem mayReceive_reply {state : FsmState} (h : mayReceive state .mReply = true) :
    state = .sAuth ∨ state = .sJoin := by
  revert h
  cases state <;> decide

/-- Every MSG, PING, ERR or BYE the phase receives, and every REPLY accepted as
the answer, is acknowledged by exactly one datagram: a CONFIRM with its id. -/
theorem inbound_confirmed_once (c : UdpClient) (d : Bytes) (src : SockAddr)
    (hreceive : mayReceive c.currentState (msgType d) = true) (hvalid : wellFormed d = true)
    (hnotConfirm : msgType d ≠ .mConfirm)
    (hreply : msgType d = .mReply →
      c.isWaitingForReply = true ∧ (c.msgToServerId.toNat : Int) - 1 = (getRefMsgId d).toNat) :
    datagrams (c.processMessageFromServer args d src).1.log =
      datagrams c.log ++ [layout .mConfirm (getMsgId d) []] := by
  cases htype : msgType d <;> simp only [wellFormed, htype, Bool.false_eq_true] at hvalid hreceive
  case mConfirm => exact absurd htype hnotConfirm
  case mBye =>
      rw [processMessageFromServer_of_bye htype, processServerByeMsg_of_valid hvalid]
      simp
  case mErr =>
      obtain ⟨⟨displayName, content⟩, hmatch⟩ := Option.isSome_iff_exists.mp hvalid
      rw [processMessageFromServer_of_err htype, processServerErrMsg_of_match hmatch]
      simp
  case mPing =>
      rw [processMessageFromServer_of_ping htype (mayReceive_ping hreceive),
        processServerPingMsg_of_valid hvalid]
      simp
  case mMsg =>
      obtain ⟨⟨displayName, content⟩, hmatch⟩ := Option.isSome_iff_exists.mp hvalid
      rw [processMessageFromServer_of_msg htype (mayReceive_msg hreceive),
        processServerMsgMsg_of_match hmatch]
      split_ifs <;> simp
  case mReply =>
      obtain ⟨hwaiting, href⟩ := hreply htype
      rw [processMessageFromServer_of_reply htype (mayReceive_reply hreceive),
        processServerReplyMsg_of_accepted (mayReceive_reply hreceive) hvalid hwaiting href]
      split_ifs <;> simp

/-- The positive REPLY with id 7, in `S_AUTH` while the REPLY to the AUTH with
id 0 is awaited. -/
theorem inbound_confirmed_once_reply :
    let c : UdpClient :=
      { UdpClient.init exampleArgs with
        currentState := .sAuth, isWaitingForReply := true, msgToServerId := 1 }
    datagrams (c.processMessageFromServer exampleArgs positiveReply sessionPort).1.log =
      datagrams c.log ++ [layout .mConfirm 7 []] :=
  inbound_confirmed_once exampleArgs _ _ _ (by decide) (by decide) (by decide) (by decide)

/-- A second copy of a MSG or PING the phase receives is confirmed again and
changes nothing else; over any run, a server message id is shown at most once. -/
theorem duplicate_confirmed_silently :
    (∀ (c : UdpClient) (d : Bytes) (src : SockAddr),
      (msgType d = .mMsg ∨ msgType d = .mPing) → mayReceive c.currentState (msgType d) = true →
      wellFormed d = true → getMsgId d ∈ c.confirmedServerMessages →
      c.processMessageFromServer args d src =
        (c.emit (.sendTo c.serverAddr (layout .mConfirm (getMsgId d) [])), .proceed)) ∧
    (∀ (c : UdpClient) (e : Event) (id : UInt16) (es : List Event) (c' : UdpClient) (e' : Event),
      ShowsMessage args c e id → execute args (step args c e).1 es = some c' →
      ¬ ShowsMessage args c' e' id) := by
  refine ⟨fun c d src htype hreceive hvalid hdup => ?_,
    fun c e id es c' e' hshow hrun hshow' => ?_⟩
  · rcases htype with htype | htype <;> rw [htype] at hreceive <;>
      simp only [wellFormed, htype] at hvalid
    · obtain ⟨⟨displayName, content⟩, hmatch⟩ := Option.isSome_iff_exists.mp hvalid
      rw [processMessageFromServer_of_msg htype (mayReceive_msg hreceive),
        processServerMsgMsg_of_match hmatch, if_pos hdup]
      simp [List.insert_of_mem hdup]
    · rw [processMessageFromServer_of_ping htype (mayReceive_ping hreceive),
        processServerPingMsg_of_valid hvalid]
      simp [List.insert_of_mem hdup]
  · exact (ShowsMessage.shows hshow').1
      (execute_confirmed_subset args hrun (ShowsMessage.shows hshow).2.1)

/-- A MSG with id 9 in `S_OPEN` is shown, and the same datagram again is only
confirmed. -/
theorem duplicate_confirmed_silently_msg :
    let d : Bytes := [0x04, 0, 9] ++ ascii "bob" ++ [0] ++ ascii "hi" ++ [0]
    let c : UdpClient := { UdpClient.init exampleArgs with currentState := .sOpen }
    let c' := (step exampleArgs c (.datagram sessionPort d)).1
    c'.processMessageFromServer exampleArgs d sessionPort =
        (c'.emit (.sendTo c'.serverAddr (layout .mConfirm 9 [])), .proceed) ∧
      ShowsMessage exampleArgs c (.datagram sessionPort d) 9 ∧
      ¬ ShowsMessage exampleArgs c' (.datagram sessionPort d) 9 :=
  have hshow : ShowsMessage exampleArgs { UdpClient.init exampleArgs with currentState := .sOpen }
      (.datagram sessionPort ([0x04, 0, 9] ++ ascii "bob" ++ [0] ++ ascii "hi" ++ [0])) 9 :=
    ⟨sessionPort, _, rfl, by decide, by decide⟩
  ⟨(duplicate_confirmed_silently exampleArgs).1 _ _ _ (by decide) (by decide) (by decide) (by decide),
    hshow, (duplicate_confirmed_silently exampleArgs).2 _ _ 9 [] _ _ hshow rfl⟩

end Acknowledge

/-! A REPLY that is not accepted is not confirmed, and a second copy in `S_OPEN` is an error. -/

/-- `/auth`, its CONFIRM and a positive REPLY with id 7: the session is open. -/
def openRun : List Event :=
  [authCommand "alice", .datagram sessionPort [0x00, 0, 0], .datagram sessionPort positiveReply]

/-- The positive REPLY with id 7 sent again once the session is open. -/
theorem resentReply_in_open :
    ∃ c, Reachable exampleArgs c ∧ c.currentState = .sOpen ∧
      getMsgId positiveReply ∈ c.confirmedServerMessages ∧ c.isWaitingForConfirm = false ∧
      c.stdinRegistered = true ∧
      (datagrams (stepEffects exampleArgs c (.datagram sessionPort positiveReply))).map
        (·.headD 0) = [ProtocolMsgType.mErr.code] ∧
      (step exampleArgs c (.datagram sessionPort positiveReply)).1.isWaitingForConfirm = true ∧
      (step exampleArgs c (.datagram sessionPort positiveReply)).1.stdinRegistered = false :=
  Reachable.exists_of_execute openRun .init (by decide)

/-- A well-formed REPLY whose ref_id is not the outstanding request's. -/
def unmatchedReply : Bytes := [0x01, 0, 8, 1, 0, 5] ++ ascii "OK" ++ [0]

/-- The REPLY is received in `S_AUTH` while the reply to the AUTH with id 0 is
awaited; nothing at all is sent back.  And a REPLY whose id is confirmed is
answered by an ERR once the session is open. -/
theorem unmatchedReply_not_confirmed :
    (wellFormed unmatchedReply = true ∧ ∃ c, Reachable exampleArgs c ∧
      mayReceive c.currentState (msgType unmatchedReply) = true ∧
      datagrams (stepEffects exampleArgs c (.datagram sessionPort unmatchedReply)) = []) ∧
    (wellFormed positiveReply = true ∧ ∃ c, Reachable exampleArgs c ∧
      getMsgId positiveReply ∈ c.confirmedServerMessages ∧
      (datagrams (stepEffects exampleArgs c (.datagram sessionPort positiveReply))).map
        (·.headD 0) = [ProtocolMsgType.mErr.code]) := by
  refine ⟨⟨by decide, Reachable.exists_of_execute (openRun.take 2) .init (by decide)⟩,
    ⟨by decide, ?_⟩⟩
  obtain ⟨c, hc, -, hmem, -, -, herr, -⟩ := resentReply_in_open
  exact ⟨c, hc, hmem, herr⟩

/-- A second copy of a REPLY, received once the session is open, is answered by
an ERR, which arms the confirm wait and disables stdin. -/
theorem resentReply_not_confirmed_silently :
    wellFormed positiveReply = true ∧ msgType positiveReply = .mReply ∧
      ∃ c, Reachable exampleArgs c ∧ getMsgId positiveReply ∈ c.confirmedServerMessages ∧
        (datagrams (stepEffects exampleArgs c (.datagram sessionPort positiveReply))).map
          (·.headD 0) = [ProtocolMsgType.mErr.code] ∧
        c.isWaitingForConfirm = false ∧
        (step exampleArgs c (.datagram sessionPort positiveReply)).1.isWaitingForConfirm = true ∧
        c.stdinRegistered = true ∧
        (step exampleArgs c (.datagram sessionPort positiveReply)).1.stdinRegistered = false := by
  refine ⟨by decide, by decide, ?_⟩
  obtain ⟨c, hc, -, hmem, hidle, hstdin, herr, hwaiting, hdisabled⟩ := resentReply_in_open
  exact ⟨c, hc, hmem, herr, hidle, hwaiting, hstdin, hdisabled⟩

end IpkChat.Udp
