import IpkChat.Udp.Session
import IpkChat.Udp.Codec

namespace IpkChat.Udp

/-! The writes of `m_current_state` by the UDP handlers, over every event from every state. -/

/-- A move of the phase of `c` on the event `e`, with the guard under which
`processStdinEvent`, `processServerConfirmMsg` or `processServerReplyMsg` makes it. -/
inductive PhaseMove (c : UdpClient) : Event → FsmState → Prop
  | auth {username secret displayName : Bytes} (hstate : c.currentState = .sStart)
      (hvalid : (UserInput.auth username secret displayName).isValid = true) :
      PhaseMove c (.stdin (.readable (some (.auth username secret displayName)))) .sAuth
  | joinConfirmed {src : SockAddr} {d : Bytes} (hstate : c.currentState = .sOpen)
      (hvalid : isValidConfirmMsg d = true) (hid : getMsgId d = c.msgToServerId)
      (hlast : c.lastMsgType = ProtocolMsgType.mJoin.code) :
      PhaseMove c (.datagram src d) .sJoin
  | replyAccepted {src : SockAddr} {d : Bytes}
      (hstate : c.currentState = .sJoin ∨ c.currentState = .sAuth ∧ replyResult d = true)
      (hvalid : isValidReplyMsg d = true) (hwaiting : c.isWaitingForReply = true)
      (href : (c.msgToServerId.toNat : Int) - 1 = (getRefMsgId d).toNat) :
      PhaseMove c (.datagram src d) .sOpen

/-- Each move is one of the FSM table, though the JOIN's is made at its CONFIRM. -/
theorem PhaseMove.fsmTransition {c : UdpClient} {e : Event} {s : FsmState} (h : PhaseMove c e s) :
    fsmTransition c.currentState s = true := by
  cases h with
  | auth hstate => rw [hstate]; rfl
  | joinConfirmed hstate => rw [hstate]; rfl
  | replyAccepted hstate => rcases hstate with hstate | ⟨hstate, -⟩ <;> rw [hstate] <;> rfl

namespace UdpClient

variable {args : Args} {c : UdpClient} {d : Bytes} {src : SockAddr}

theorem currentState_sendErrMsg (errMsg : String) :
    (c.sendErrMsg args errMsg).currentState = c.currentState := by
  dsimp only [sendErrMsg, buildErrMsg, emit, sendMsgToServer, disableStdinEvents, startTimer]

theorem currentState_sendUserInput (input : UserInput) :
    (c.sendUserInput args input).currentState =
      if input.msgType = .mAuth ∧ c.currentState = .sStart then .sAuth else c.currentState := by
  unfold sendUserInput
  cases input <;> exact apply_ite UdpClient.currentState _ _ _

theorem currentState_processStdinEvent (event : StdinEvent) :
    (c.processStdinEvent args event).1.currentState = c.currentState ∨
      PhaseMove c (.stdin event) (c.processStdinEvent args event).1.currentState := by
  rcases event with (_ | input) | _ | _
  · exact .inl rfl
  · simp only [processStdinEvent]
    cases haction : processNonMsgToServer c.currentState input with
    | rename displayName => exact .inl rfl
    | print line => exact .inl rfl
    | send =>
        rw [currentState_sendUserInput]
        split_ifs with hauth
        · cases input with
          | auth username secret displayName =>
              exact .inr (.auth hauth.2 (processNonMsgToServer_eq_send.mp haction).1)
          | _ => cases hauth.1
        · exact .inl rfl
  · exact .inl rfl
  · exact .inl rfl

theorem currentState_processTimerEvent :
    (c.processTimerEvent args).1.currentState = c.currentState := by
  unfold processTimerEvent
  split_ifs <;> first | with_reducible exact currentState_sendErrMsg _ | rfl

/-- A CONFIRM moves the phase only when it confirms a JOIN in `S_OPEN`. -/
theorem currentState_processServerConfirmMsg :
    (c.processServerConfirmMsg args d).1.currentState = c.currentState ∨
      PhaseMove c (.datagram src d) (c.processServerConfirmMsg args d).1.currentState := by
  by_cases hvalid : isValidConfirmMsg d
  · by_cases hid : getMsgId d = c.msgToServerId
    · by_cases hjoin : c.currentState = .sOpen ∧ c.lastMsgType = ProtocolMsgType.mJoin.code
      · rw [processServerConfirmMsg_of_join hvalid hid hjoin.1 hjoin.2]
        exact .inr (.joinConfirmed hjoin.1 hvalid hid hjoin.2)
      · left
        unfold processServerConfirmMsg
        rw [if_pos hvalid, if_pos hid]
        split_ifs <;> (try split) <;> first | rfl | exact absurd ⟨‹_›, ‹_›⟩ hjoin
    · rw [processServerConfirmMsg_of_ne_id hvalid hid]
      exact .inl rfl
  · left
    unfold processServerConfirmMsg
    rw [if_neg hvalid]
    exact currentState_sendErrMsg _

/-- A REPLY moves the phase only when it is accepted, from `S_JOIN`, or from
`S_AUTH` with a positive result. -/
theorem currentState_processServerReplyMsg :
    (c.processServerReplyMsg args d src).currentState = c.currentState ∨
      PhaseMove c (.datagram src d) (c.processServerReplyMsg args d src).currentState := by
  by_cases hstate : c.currentState = .sAuth ∨ c.currentState = .sJoin
  · by_cases hvalid : isValidReplyMsg d
    · by_cases haccepted :
          c.isWaitingForReply ∧ (c.msgToServerId.toNat : Int) - 1 = (getRefMsgId d).toNat
      · rw [processServerReplyMsg_of_accepted hstate hvalid haccepted.1 haccepted.2]
        by_cases hmove : c.currentState = .sJoin ∨ replyResult d = true
        · refine .inr ?_
          rw [if_pos hmove]
          refine .replyAccepted ?_ hvalid haccepted.1 haccepted.2
          rcases hmove with hjoin | hresult
          · exact .inl hjoin
          · rcases hstate with hauth | hjoin
            · exact .inr ⟨hauth, hresult⟩
            · exact .inl hjoin
        · exact .inl (if_neg hmove)
      · rw [processServerReplyMsg_of_not_accepted hstate hvalid haccepted]
        split_ifs <;> exact .inl rfl
    · rw [processServerReplyMsg_of_malformed hstate hvalid]
      exact .inl (currentState_sendErrMsg _)
  · rw [processServerReplyMsg_of_unexpected hstate]
    exact .inl (currentState_sendErrMsg _)

theorem currentState_processServerMsgMsg :
    (c.processServerMsgMsg args d).currentState = c.currentState := by
  cases hmatch : matchMsgMsg d with
  | some fields =>
      rw [processServerMsgMsg_of_match hmatch]
      split_ifs <;> rfl
  | none =>
      rw [processServerMsgMsg_of_malformed hmatch]
      exact currentState_sendErrMsg _

theorem currentState_processServerErrMsg :
    (c.processServerErrMsg args d).1.currentState = c.currentState := by
  cases hmatch : matchErrMsg d with
  | some fields => rw [processServerErrMsg_of_match hmatch]; rfl
  | none =>
      rw [processServerErrMsg_of_malformed hmatch]
      exact currentState_sendErrMsg _

theorem currentState_processServerByeMsg :
    (c.processServerByeMsg args d).1.currentState = c.currentState := by
  unfold processServerByeMsg
  split_ifs
  · rfl
  · exact currentState_sendErrMsg _

theorem currentState_processServerPingMsg :
    (c.processServerPingMsg args d).currentState = c.currentState := by
  unfold processServerPingMsg
  split_ifs
  · rfl
  · exact currentState_sendErrMsg _

theorem currentState_processMessageFromServer :
    (c.processMessageFromServer args d src).1.currentState = c.currentState ∨
      PhaseMove c (.datagram src d) (c.processMessageFromServer args d src).1.currentState :=
  processMessageFromServer_of_handlers
    (P := fun r => r.1.currentState = c.currentState ∨ PhaseMove c (.datagram src d) r.1.currentState)
    (.inl currentState_processServerByeMsg) (.inl currentState_processServerErrMsg)
    currentState_processServerConfirmMsg currentState_processServerReplyMsg
    (.inl currentState_processServerPingMsg) (.inl currentState_processServerMsgMsg)
    fun _ => .inl (currentState_sendErrMsg _)

end UdpClient

/-- A wake makes every `PhaseMove` whose guard holds and changes the phase in no
other way; each move is an edge of the FSM table. -/
theorem step_currentState (args : Args) (c : UdpClient) (e : Event) :
    (∀ s, PhaseMove c e s → (step args c e).1.currentState = s) ∧
      ((step args c e).1.currentState = c.currentState ∨
        PhaseMove c e (step args c e).1.currentState ∧
          fsmTransition c.currentState (step args c e).1.currentState = true) := by
  refine ⟨fun s hmove => ?_, ?_⟩
  · cases hmove with
    | auth hstate hvalid =>
        rename_i username secret displayName
        have hsend : processNonMsgToServer c.currentState (.auth username secret displayName) = .send :=
          processNonMsgToServer_eq_send.mpr ⟨hvalid, by rw [hstate]; rfl⟩
        simp only [step, UdpClient.processStdinEvent, hsend]
        rw [UdpClient.currentState_sendUserInput, if_pos ⟨rfl, hstate⟩]
    | joinConfirmed hstate hvalid hid hlast =>
        rw [step, UdpClient.processSocketEvent_of_fits args c _ (isValidConfirmMsg_fits hvalid),
          UdpClient.processMessageFromServer_of_confirm (isValidConfirmMsg_type hvalid),
          UdpClient.processServerConfirmMsg_of_join hvalid hid hstate hlast]
        rfl
    | replyAccepted hstate hvalid hwaiting href =>
        have hphase : c.currentState = .sAuth ∨ c.currentState = .sJoin :=
          hstate.elim .inr fun h => .inl h.1
        rw [step, UdpClient.processSocketEvent_of_fits args c _ (isValidReplyMsg_fits hvalid),
          UdpClient.processMessageFromServer_of_reply (isValidReplyMsg_type hvalid) hphase,
          UdpClient.processServerReplyMsg_of_accepted hphase hvalid hwaiting href]
        exact if_pos (hstate.elim .inl fun h => .inr h.2)
  · have hmoves : (step args c e).1.currentState = c.currentState ∨
        PhaseMove c e (step args c e).1.currentState :=
      step_of_handlers
        (P := fun r => r.1.currentState = c.currentState ∨ PhaseMove c e r.1.currentState)
        (fun event he => he ▸ UdpClient.currentState_processStdinEvent event)
        (fun _ => .inl UdpClient.currentState_processTimerEvent) (fun _ => .inl rfl)
        (fun _ _ he _ => he ▸ UdpClient.currentState_processMessageFromServer)
        fun _ => .inl (UdpClient.currentState_sendErrMsg _)
    exact hmoves.imp_right fun hmove => ⟨hmove, hmove.fsmTransition⟩

end IpkChat.Udp
