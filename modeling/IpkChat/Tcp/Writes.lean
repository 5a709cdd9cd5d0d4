import IpkChat.Tcp.Framing
import IpkChat.Tcp.Codec

namespace IpkChat.Tcp

/-! The lines the TCP client writes to the server, by the event that wakes it. -/

/-- The type a line of the text grammar declares. -/
def TextMsg.msgType : TextMsg → ProtocolMsgType
  | .auth .. => .mAuth
  | .join .. => .mJoin
  | .msg .. => .mMsg
  | .err .. => .mErr
  | .bye _ => .mBye
  | .reply .. => .mReply

/-- The types of line a wake on `e` in phase `state` may write: on user input a
command the phase allows or a BYE, on SIGINT a BYE, on anything else an ERR. -/
def Event.writable (state : FsmState) : Event → ProtocolMsgType → Bool
  | .stdin _ => fun t => t != .mErr && canSendMessageType state t
  | .sigint => (· == .mBye)
  | _ => (· == .mErr)

theorem Event.canSendMessageType_of_writable {state : FsmState} {e : Event} {t : ProtocolMsgType}
    (h : e.writable state t = true) : canSendMessageType state t = true := by
  cases e <;> simp only [Event.writable, Bool.and_eq_true, beq_iff_eq] at h
  case stdin => exact h.2
  all_goals rw [h]; rfl

/-- An entry a wake may add to the log: a line for the user, or a line of the
text grammar to `server` of a type in `allowed`. -/
def MayWrite (allowed : ProtocolMsgType → Bool) (server : SockAddr) : Effect → Prop
  | .sendTo dest bytes => dest = server ∧ ∃ m : TextMsg, bytes = m.encode ∧ allowed m.msgType = true
  | .output _ => True

namespace TcpClient

/-- `c'` is connected where `c` is, and its log is `c`'s followed by entries
`MayWrite allowed` admits. -/
def Writes (allowed : ProtocolMsgType → Bool) (c c' : TcpClient) : Prop :=
  c'.serverAddr = c.serverAddr ∧
    ∃ written, c'.log = c.log ++ written ∧ ∀ e ∈ written, MayWrite allowed c.serverAddr e

namespace Writes

variable {allowed : ProtocolMsgType → Bool} {c c₁ c₂ : TcpClient}

theorem trans (h₁ : Writes allowed c c₁) (h₂ : Writes allowed c₁ c₂) : Writes allowed c c₂ := by
  obtain ⟨hserver₁, written₁, hlog₁, hmay₁⟩ := h₁
  obtain ⟨hserver₂, written₂, hlog₂, hmay₂⟩ := h₂
  refine ⟨hserver₂.trans hserver₁, written₁ ++ written₂, by rw [hlog₂, hlog₁, List.append_assoc], ?_⟩
  intro e he
  rcases List.mem_append.mp he with he | he
  · exact hmay₁ e he
  · exact hserver₁ ▸ hmay₂ e he

/-- A handler that writes nothing. -/
theorem of_frame (hserver : c₁.serverAddr = c.serverAddr) (hlog : c₁.log = c.log) :
    Writes allowed c c₁ :=
  ⟨hserver, [], by rw [hlog, List.append_nil], nofun⟩

theorem output (line : Output) : Writes allowed c (c.emit (.output line)) :=
  ⟨rfl, [.output line], rfl, List.forall_mem_singleton.mpr trivial⟩

/-- Sending the line a builder left in `msgToServer`, of a type in `allowed`. -/
theorem send (m : TextMsg) (hserver : c₁.serverAddr = c.serverAddr) (hlog : c₁.log = c.log)
    (hmsg : c₁.msgToServer = m.encode) (hallowed : allowed m.msgType = true) :
    Writes allowed c c₁.sendMsgToServer :=
  ⟨hserver, [.sendTo c₁.serverAddr c₁.msgToServer], by rw [← hlog]; rfl,
    List.forall_mem_singleton.mpr ⟨hserver, m, hmsg, hallowed⟩⟩

theorem mono {allowed' : ProtocolMsgType → Bool} (h : Writes allowed c c₁)
    (hle : ∀ t, allowed t = true → allowed' t = true) : Writes allowed' c c₁ := by
  obtain ⟨hserver, written, hlog, hmay⟩ := h
  refine ⟨hserver, written, hlog, fun e he => ?_⟩
  cases e with
  | sendTo dest bytes =>
      obtain ⟨hdest, m, hbytes, hallowed⟩ := hmay _ he
      exact ⟨hdest, m, hbytes, hle _ hallowed⟩
  | output line => trivial

end Writes

variable {allowed : ProtocolMsgType → Bool} {c : TcpClient}

theorem writes_sendErrMsgAndTerminate (herr : allowed .mErr = true) (errMsg : String) :
    Writes allowed c (c.sendErrMsgAndTerminate errMsg).1 :=
  Writes.send (.err c.userDisplayName (ascii errMsg)) rfl rfl (c.buildErrMsg_encode _) herr

theorem writes_sendByeMsgToServer (hbye : allowed .mBye = true) :
    Writes allowed c c.sendByeMsgToServer :=
  Writes.send (.bye c.userDisplayName) rfl rfl c.buildByeMsg_encode hbye

theorem writes_processTimerEvent (herr : allowed .mErr = true) :
    Writes allowed c c.processTimerEvent.1 := by
  unfold processTimerEvent
  split_ifs
  · exact writes_sendErrMsgAndTerminate herr _
  · exact Writes.of_frame rfl rfl

/-- A command `processNonMsgToServer` lets through is written as the line of its
type, which the phase allows. -/
theorem writes_sendUserInput {input : UserInput}
    (hsend : processNonMsgToServer c.currentState input = .send) :
    Writes (fun t => t != .mErr && canSendMessageType c.currentState t) c
      (c.sendUserInput input) := by
  have hallowed := canSendMessageType_of_send hsend
  cases input with
  | auth username secret displayName =>
      refine (Writes.send (.auth username displayName secret) rfl rfl
        (buildAuthMsg_encode { c with userDisplayName := displayName } username secret)
        ?_).trans (Writes.of_frame ?_ ?_)
      · exact hallowed
      all_goals simp only [TcpClient.sendUserInput]; split_ifs <;> rfl
  | join channelId =>
      exact Writes.send (.join channelId c.userDisplayName) rfl rfl (buildJoinMsg_encode _ _) hallowed
  | msg content =>
      exact Writes.send (.msg c.userDisplayName content) rfl rfl (buildMsgMsg_encode _ _) hallowed
  | rename displayName => cases hallowed
  | help => cases hallowed

theorem writes_processStdinEvent (event : StdinEvent) :
    Writes ((Event.stdin event).writable c.currentState) c (c.processStdinEvent event).1 := by
  rcases event with (_ | input) | _ | _
  · exact Writes.of_frame rfl rfl
  · simp only [processStdinEvent]
    cases haction : processNonMsgToServer c.currentState input with
    | send => exact writes_sendUserInput haction
    | rename displayName => exact Writes.of_frame rfl rfl
    | print line => exact Writes.output line
  · exact writes_sendByeMsgToServer rfl
  · exact Writes.of_frame rfl rfl

/-! The handlers of server messages write lines for the user and, on an error, an ERR. -/

section ServerInput

variable (herr : allowed .mErr = true)
include herr

theorem writes_processServerFromIsMsg {keyword : Bytes} {display : Bytes → Bytes → Output}
    {malformed : String} (frame : Bytes) :
    Writes allowed c (processServerFromIsMsg keyword display malformed c frame).1 := by
  unfold processServerFromIsMsg
  split
  · exact Writes.output _
  · exact writes_sendErrMsgAndTerminate herr _

theorem writes_processServerByeMsg (frame : Bytes) :
    Writes allowed c (c.processServerByeMsg frame).1 := by
  unfold processServerByeMsg
  split
  · split_ifs
    · exact Writes.of_frame rfl rfl
    · exact writes_sendErrMsgAndTerminate herr _
  · exact writes_sendErrMsgAndTerminate herr _

theorem writes_processServerReplyMsg (frame : Bytes) :
    Writes allowed c (c.processServerReplyMsg frame).1 := by
  rcases c.processServerReplyMsg_cases frame with
    ⟨errMsg, herrMsg⟩ | ⟨result, content, hstate, hwaiting, hmatch, hlength⟩
  · rw [herrMsg]
    exact writes_sendErrMsgAndTerminate herr _
  · rw [processServerReplyMsg_of_match hstate hwaiting hmatch hlength]
    exact ⟨rfl, _, rfl, List.forall_mem_singleton.mpr trivial⟩

theorem writes_processMessageFromServer (buffer frame : Bytes) :
    Writes allowed c (c.processMessageFromServer buffer frame).1 := by
  simp only [processMessageFromServer]
  split_ifs
  · exact writes_sendErrMsgAndTerminate herr _
  · have hwrites : Writes allowed c (c.processServerByeMsg frame).1 :=
      writes_processServerByeMsg herr frame
    generalize c.processServerByeMsg frame = result at hwrites ⊢
    rcases result with ⟨c', _ | _ | _ | _⟩ <;> exact hwrites
  · have hwrites : Writes allowed c (c.processServerErrMsg frame).1 :=
      writes_processServerFromIsMsg herr frame
    generalize c.processServerErrMsg frame = result at hwrites ⊢
    rcases result with ⟨c', _ | _ | _ | _⟩ <;> exact hwrites
  all_goals cases c.currentState <;>
    first
    | with_reducible exact writes_sendErrMsgAndTerminate herr _
    | with_reducible exact writes_processServerReplyMsg herr _
    | exact writes_processServerFromIsMsg herr _

end ServerInput

theorem writes_andThen {result : TcpClient × Verdict} {k : TcpClient → TcpClient × Verdict}
    (h : Writes allowed c result.1) (hk : ∀ c', Writes allowed c' (k c').1) :
    Writes allowed c (andThen result k).1 := by
  obtain ⟨c₁, _ | _ | _ | _⟩ := result
  all_goals first | exact h | exact h.trans (hk c₁)

theorem writes_dispatchSegments (herr : allowed .mErr = true) (frames : List Bytes) :
    Writes allowed c (c.dispatchSegments frames).1 := by
  induction frames generalizing c with
  | nil => exact Writes.of_frame rfl rfl
  | cons frame frames ih =>
      unfold dispatchSegments
      split_ifs
      · exact writes_sendErrMsgAndTerminate herr _
      · exact writes_andThen (writes_processMessageFromServer herr _ _) fun _ => ih

theorem writes_processFrames (herr : allowed .mErr = true) (buffer : Bytes) :
    Writes allowed c (c.processFrames buffer).1 := by
  rw [congrArg Prod.fst (c.processFrames_dispatchStream buffer).1]
  refine writes_andThen (writes_dispatchSegments herr _) fun c' => ?_
  unfold checkTail
  split_ifs
  · exact writes_sendErrMsgAndTerminate herr _
  · exact Writes.of_frame rfl rfl

end TcpClient

/-- Every wake only appends to the log and keeps the connected server, and each
line it writes is of a type `Event.writable` allows for its event, so one that
`canSendMessageType` allows in the phase the wake started in. -/
theorem step_writes_allowed (s : TcpClient × Bytes) (e : Event) :
    TcpClient.Writes (e.writable s.1.currentState) s.1 (step s e).1.1 ∧
      TcpClient.Writes (canSendMessageType s.1.currentState) s.1 (step s e).1.1 := by
  have hwrites : TcpClient.Writes (e.writable s.1.currentState) s.1 (step s e).1.1 := by
    obtain ⟨c, buffer⟩ := s
    cases e with
    | stdin event => exact TcpClient.writes_processStdinEvent event
    | timerExpired =>
        exact (TcpClient.Writes.of_frame rfl rfl).trans (TcpClient.writes_processTimerEvent rfl)
    | sigint => exact TcpClient.writes_sendByeMsgToServer rfl
    | received bytes =>
        show TcpClient.Writes _ c (c.processSocketEvent buffer bytes).1
        unfold TcpClient.processSocketEvent
        split_ifs
        · exact TcpClient.Writes.of_frame rfl rfl
        · exact TcpClient.writes_processFrames rfl _
    | recvFailed => exact TcpClient.writes_sendErrMsgAndTerminate rfl _
  exact ⟨hwrites, hwrites.mono fun _ => Event.canSendMessageType_of_writable⟩

end IpkChat.Tcp
