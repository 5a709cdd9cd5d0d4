import IpkChat.Udp.Wire

namespace IpkChat.Udp

/-! `Udp_client` (`udp-client.cpp`) as explicit state passing; `sendto()` is taken to succeed. -/

/-- The members of `Udp_client` and its `Client` base that the protocol engine
reads or writes; `serverAddr` is `m_args`' `sockaddr_in`, `log` everything sent
or printed so far. -/
structure UdpClient where
  currentState : FsmState
  userDisplayName : Bytes
  isWaitingForReply : Bool
  msgToServer : Bytes
  timer : Option Nat
  stdinRegistered : Bool
  serverAddr : SockAddr
  log : List Effect
  allowedRetransmissions : UInt8
  msgToServerId : UInt16
  isWaitingForConfirm : Bool
  isWaitingForByeConfirm : Bool
  confirmedServerMessages : List UInt16
  deriving DecidableEq, Repr

namespace UdpClient

variable (args : Args)

/-- The client `Client::create` returns for `-t udp`, once
`addEntriesToEpollInstance` has registered stdin. -/
def init : UdpClient where
  currentState := .sStart
  userDisplayName := ascii "unknown"
  isWaitingForReply := false
  msgToServer := []
  timer := none
  stdinRegistered := true
  serverAddr := args.serverAddr
  log := []
  allowedRetransmissions := args.udpMaxRetransCount
  msgToServerId := 0
  isWaitingForConfirm := false
  isWaitingForByeConfirm := false
  confirmedServerMessages := []

def emit (c : UdpClient) (e : Effect) : UdpClient := { c with log := c.log ++ [e] }

/-- Modelled from the spec: `Client::startTimer` arms the one-shot timer
(client.cpp is missing). -/
def startTimer (c : UdpClient) (time : Nat) : UdpClient := { c with timer := some time }

/-- Modelled from the spec: `Client::stopTimer` disarms the timer (client.cpp is
missing). -/
def stopTimer (c : UdpClient) : UdpClient := { c with timer := none }

/-- Modelled from the spec: `Client::disableStdinEvents` removes stdin from epoll
(client.cpp is missing). -/
def disableStdinEvents (c : UdpClient) : UdpClient := { c with stdinRegistered := false }

/-- Modelled from the spec: `Client::enableStdinEvents` adds stdin to epoll
(client.cpp is missing). -/
def enableStdinEvents (c : UdpClient) : UdpClient := { c with stdinRegistered := true }

/-- `sendto()` is taken to succeed; the exception it throws on failure is not modelled. -/
def sendMsgToServer (c : UdpClient) : UdpClient := c.emit (.sendTo c.serverAddr c.msgToServer)

def buildAuthMsg (c : UdpClient) (username secret : Bytes) : UdpClient :=
  { c with msgToServer := layout .mAuth c.msgToServerId [username, c.userDisplayName, secret] }

def buildJoinMsg (c : UdpClient) (channelId : Bytes) : UdpClient :=
  { c with msgToServer := layout .mJoin c.msgToServerId [channelId, c.userDisplayName] }

def buildMsgMsg (c : UdpClient) (userMsg : Bytes) : UdpClient :=
  { c with msgToServer := layout .mMsg c.msgToServerId [c.userDisplayName, userMsg] }

/-- Unlike the three builders above, `buildErrMsg` advances `m_msg_to_server_id`
before it writes the id. -/
def buildErrMsg (c : UdpClient) (content : Bytes) : UdpClient :=
  { c with
    msgToServerId := c.msgToServerId + 1
    msgToServer := layout .mErr (c.msgToServerId + 1) [c.userDisplayName, content] }

/-- Like `buildErrMsg`, `buildByeMsg` advances the id before it writes it. -/
def buildByeMsg (c : UdpClient) : UdpClient :=
  { c with
    msgToServerId := c.msgToServerId + 1
    msgToServer := layout .mBye (c.msgToServerId + 1) [c.userDisplayName] }

/-- Modelled from the spec: `Client::buildUserMsgToServer` dispatches to the
builder of the command (client.cpp is missing). -/
def buildUserMsgToServer (c : UdpClient) : UserInput → UdpClient
  | .auth username secret _ => c.buildAuthMsg username secret
  | .join channelId => c.buildJoinMsg channelId
  | .msg content => c.buildMsgMsg content
  | _ => c

/-- `sendto()` is taken to succeed, as in `sendMsgToServer`. -/
def sendConfirmMsg (c : UdpClient) (refMsgId : UInt16) : UdpClient :=
  { c.emit (.sendTo c.serverAddr (layout .mConfirm refMsgId [])) with
    confirmedServerMessages := c.confirmedServerMessages.insert refMsgId }

/-- `printErrMsg` shows the content of the ERR past its `"ERROR: "` prefix. -/
def sendErrMsg (c : UdpClient) (errMsg : String) : UdpClient :=
  let c := c.buildErrMsg (ascii errMsg)
  let c := c.emit (.output (.errMsg (c.msgToServer.drop
    (sBytesInMsgHeader + c.userDisplayName.length + sTerminatorSize + "ERROR: ".length))))
  { (c.sendMsgToServer.disableStdinEvents.startTimer args.udpConfirmTimeout.toNat) with
    isWaitingForConfirm := true
    isWaitingForReply := false }

def sendByeMsgToServer (c : UdpClient) : UdpClient :=
  { (c.buildByeMsg.sendMsgToServer.disableStdinEvents.startTimer
      args.udpConfirmTimeout.toNat) with
    isWaitingForConfirm := false
    isWaitingForReply := false
    isWaitingForByeConfirm := true
    allowedRetransmissions := args.udpMaxRetransCount }

def sigintHandler (c : UdpClient) : UdpClient := c.sendByeMsgToServer args

/-- Called after the timer has expired, which disarms it. -/
def processTimerEvent (c : UdpClient) : UdpClient × Verdict :=
  if c.isWaitingForConfirm || c.isWaitingForByeConfirm then
    if c.allowedRetransmissions = 0 then (c, .raise "exceeded udp max retransmission number.")
    else
      ({ c.sendMsgToServer.startTimer args.udpConfirmTimeout.toNat with
          allowedRetransmissions := c.allowedRetransmissions - 1 }, .proceed)
  else if c.isWaitingForReply then
    (c.sendErrMsg args "ERROR: waited too long for the server's reply.", .proceed)
  else
    (c, .raise "timer event, but m_is_waiting_for_confirm and m_is_waiting_for_reply are false.")

/-- The part of `processStdinEvent` after `processNonMsgToServer` has let the
input through: build, send, and wait for the CONFIRM. -/
def sendUserInput (c : UdpClient) (input : UserInput) : UdpClient :=
  let c := match input with
    | .auth _ _ displayName => { c with userDisplayName := displayName }
    | _ => c
  let c := (c.buildUserMsgToServer input).sendMsgToServer
  let c := if input.msgType = .mAuth ∧ c.currentState = .sStart
    then { c with currentState := .sAuth } else c
  { c.disableStdinEvents with
    isWaitingForConfirm := true
    isWaitingForReply :=
      input.msgType == ProtocolMsgType.mAuth || input.msgType == ProtocolMsgType.mJoin }.startTimer
    args.udpConfirmTimeout.toNat

def processStdinEvent (c : UdpClient) : StdinEvent → UdpClient × Verdict
  | .hangup => (c.sendByeMsgToServer args, .proceed)
  | .error => (c, .raise "stdin error occurred.")
  | .readable none => (c, .proceed)
  | .readable (some input) =>
      match processNonMsgToServer c.currentState input with
      | .rename displayName => ({ c with userDisplayName := displayName }, .proceed)
      | .print line => (c.emit (.output line), .proceed)
      | .send => (c.sendUserInput args input, .proceed)

/-- The first byte of `m_msg_to_server`, the type of the last message built. -/
def lastMsgType (c : UdpClient) : UInt8 := c.msgToServer.headD 0

def processServerConfirmMsg (c : UdpClient) (confirmMsg : Bytes) : UdpClient × Verdict :=
  if isValidConfirmMsg confirmMsg then
    if getMsgId confirmMsg = c.msgToServerId then
      if c.lastMsgType = ProtocolMsgType.mBye.code then (c, .exitSuccess)
      else if c.lastMsgType = ProtocolMsgType.mErr.code then (c, .exitFailure)
      else
        match c.currentState with
        | .sAuth =>
            if c.lastMsgType = ProtocolMsgType.mAuth.code then
              ({ c with
                  isWaitingForConfirm := false
                  isWaitingForReply := true
                  allowedRetransmissions := args.udpMaxRetransCount
                  msgToServerId := c.msgToServerId + 1 }.startTimer (sMaxReplyWaitTime * 1000),
                .proceed)
            else (c, .proceed)
        | .sOpen =>
            if c.lastMsgType = ProtocolMsgType.mMsg.code then
              ({ c.stopTimer with
                  isWaitingForConfirm := false
                  allowedRetransmissions := args.udpMaxRetransCount
                  msgToServerId := c.msgToServerId + 1 }.enableStdinEvents, .proceed)
            else if c.lastMsgType = ProtocolMsgType.mJoin.code then
              ({ c with
                  isWaitingForConfirm := false
                  isWaitingForReply := true
                  allowedRetransmissions := args.udpMaxRetransCount
                  msgToServerId := c.msgToServerId + 1
                  currentState := .sJoin }.startTimer (sMaxReplyWaitTime * 1000), .proceed)
            else (c, .proceed)
        | .sStart | .sJoin => (c, .proceed)
    else (c, .proceed)
  else (c.sendErrMsg args "ERROR: received a malformed CONFIRM message from the server.", .proceed)

/-- `isValidMsgMsg` prints a valid MSG unless its id has been confirmed before. -/
def isValidMsgMsg (c : UdpClient) (msgMsg : Bytes) : UdpClient × Bool :=
  match matchMsgMsg msgMsg with
  | some (displayName, content) =>
      (if getMsgId msgMsg ∈ c.confirmedServerMessages then c
        else c.emit (.output (.incomingMsg displayName content)), true)
  | none => (c, false)

def processServerMsgMsg (c : UdpClient) (msgMsg : Bytes) : UdpClient :=
  match c.isValidMsgMsg msgMsg with
  | (c, true) => c.sendConfirmMsg (getMsgId msgMsg)
  | (c, false) => c.sendErrMsg args "ERROR: received a malformed MSG message from the server."

/-- `isValidErrMsg` prints every valid ERR, confirmed before or not. -/
def isValidErrMsg (c : UdpClient) (errMsg : Bytes) : UdpClient × Bool :=
  match matchErrMsg errMsg with
  | some (displayName, content) => (c.emit (.output (.errFromServer displayName content)), true)
  | none => (c, false)

def processServerErrMsg (c : UdpClient) (errMsg : Bytes) : UdpClient × Verdict :=
  match c.isValidErrMsg errMsg with
  | (c, true) => (c.sendConfirmMsg (getMsgId errMsg), .exitFailure)
  | (c, false) =>
      (c.sendErrMsg args "ERROR: received a malformed ERR message from the server.", .proceed)

def processServerByeMsg (c : UdpClient) (byeMsg : Bytes) : UdpClient × Verdict :=
  if isValidByeMsg byeMsg then (c.sendConfirmMsg (getMsgId byeMsg), .exitSuccess)
  else (c.sendErrMsg args "ERROR: received a malformed BYE message from the server.", .proceed)

def processServerPingMsg (c : UdpClient) (pingMsg : Bytes) : UdpClient :=
  if isValidPingMsgLength pingMsg.length then c.sendConfirmMsg (getMsgId pingMsg)
  else c.sendErrMsg args "ERROR: received a malformed PING message from the server."

/-- `serverAddr` is the source address `recvfrom` filled in. -/
def processServerReplyMsg (c : UdpClient) (replyMsg : Bytes) (serverAddr : SockAddr) :
    UdpClient :=
  if c.currentState ≠ .sAuth ∧ c.currentState ≠ .sJoin then
    c.sendErrMsg args "ERROR: received a REPLY message in unexpected state."
  else if isValidReplyMsg replyMsg then
    let c := if c.currentState = .sAuth then { c with serverAddr := serverAddr } else c
    if c.isWaitingForReply ∧ (c.msgToServerId.toNat : Int) - 1 = (getRefMsgId replyMsg).toNat then
      let c := c.stopTimer
      let replyMsgId := getMsgId replyMsg
      let c := if replyMsgId ∈ c.confirmedServerMessages then c
        else c.emit (.output (.incomingReply (replyResult replyMsg) (replyContent replyMsg)))
      let c := c.sendConfirmMsg replyMsgId
      let c := if c.currentState = .sJoin ∨ replyResult replyMsg then { c with currentState := .sOpen }
        else c
      { c with isWaitingForReply := false }.enableStdinEvents
    else c
  else c.sendErrMsg args "ERROR: received a malformed REPLY message from the server."

def processMessageFromServer (c : UdpClient) (msgFromServer : Bytes) (serverAddr : SockAddr) :
    UdpClient × Verdict :=
  if msgType msgFromServer = .mBye then c.processServerByeMsg args msgFromServer
  else if msgType msgFromServer = .mErr then c.processServerErrMsg args msgFromServer
  else
    match c.currentState with
    | .sStart =>
        match msgType msgFromServer with
        | .mConfirm => c.processServerConfirmMsg args msgFromServer
        | _ => (c.sendErrMsg args ("ERROR: only messages of types BYE, ERR or CONFIRM are " ++
            "expected to be received from the server in the client's START state."), .proceed)
    | .sAuth =>
        match msgType msgFromServer with
        | .mConfirm => c.processServerConfirmMsg args msgFromServer
        | .mReply => (c.processServerReplyMsg args msgFromServer serverAddr, .proceed)
        | .mPing => (c.processServerPingMsg args msgFromServer, .proceed)
        | _ => (c.sendErrMsg args ("ERROR: only messages of types BYE, ERR, CONFIRM, PING and " ++
            "REPLY are expected to be received from the server in the client's AUTH state."),
            .proceed)
    | .sOpen =>
        match msgType msgFromServer with
        | .mConfirm => c.processServerConfirmMsg args msgFromServer
        | .mMsg => (c.processServerMsgMsg args msgFromServer, .proceed)
        | .mPing => (c.processServerPingMsg args msgFromServer, .proceed)
        | _ => (c.sendErrMsg args ("ERROR: only messages of types BYE, ERR, CONFIRM, PING, JOIN " ++
            "and MSG are expected to be received from the server in the client's OPEN state."),
            .proceed)
    | .sJoin =>
        match msgType msgFromServer with
        | .mMsg => (c.processServerMsgMsg args msgFromServer, .proceed)
        | .mPing => (c.processServerPingMsg args msgFromServer, .proceed)
        | .mReply => (c.processServerReplyMsg args msgFromServer serverAddr, .proceed)
        | .mConfirm => c.processServerConfirmMsg args msgFromServer
        | _ => (c.sendErrMsg args ("ERROR: only messages of types BYE, ERR, CONFIRM, PING, " ++
            "REPLY and MSG are expected to be received from the server in the client's JOIN " ++
            "state."), .proceed)

/-- `recvfrom` reads at most `s_MAX_MSG_SIZE + 1` bytes of the datagram. -/
def processSocketEvent (c : UdpClient) (serverAddr : SockAddr) (datagram : Bytes) :
    UdpClient × Verdict :=
  let received := datagram.take (sMaxMsgSize + 1)
  if received.length > sMaxMsgSize then
    (c.sendErrMsg args "ERROR: too long message from server.", .proceed)
  else c.processMessageFromServer args received serverAddr

end UdpClient

/-! The event loop `Client::run`. -/

/-- Modelled from the spec: what one wake of `epoll_wait` in `Client::run` hands
to the client (client.cpp is missing): a stdin event, the expiry of the timer,
SIGINT, a datagram with its source, or a failed `recvfrom`. -/
inductive Event
  | stdin (event : StdinEvent)
  | timerExpired
  | sigint
  | datagram (src : SockAddr) (bytes : Bytes)
  | recvFailed
  deriving DecidableEq, Repr

/-- Modelled from the spec: epoll reports stdin only while it is registered and
the timer only while it is armed; SIGINT and the socket can always come. -/
def Event.enabled (c : UdpClient) : Event → Bool
  | .stdin _ => c.stdinRegistered
  | .timerExpired => c.timer.isSome
  | _ => true

section Loop

variable (args : Args)

/-- One wake of the event loop.  The expiry disarms the one-shot timer before
`processTimerEvent` runs. -/
def step (c : UdpClient) : Event → UdpClient × Verdict
  | .stdin event => c.processStdinEvent args event
  | .timerExpired => { c with timer := none }.processTimerEvent args
  | .sigint => (c.sigintHandler args, .proceed)
  | .datagram src bytes => c.processSocketEvent args src bytes
  | .recvFailed =>
      (c.sendErrMsg args "ERROR: couldn't receive a message from the server: recv() has failed.",
        .proceed)

/-- The states the session can be in while `run` keeps looping. -/
inductive Reachable : UdpClient → Prop
  | init : Reachable (UdpClient.init args)
  | step {c : UdpClient} {e : Event} :
      Reachable c → e.enabled c → (step args c e).2 = .proceed → Reachable (step args c e).1

/-- Runs a list of events while each is enabled and the loop goes on. -/
def execute (c : UdpClient) : List Event → Option UdpClient
  | [] => some c
  | e :: es => if e.enabled c ∧ (step args c e).2 = .proceed then execute (step args c e).1 es
      else none

theorem Reachable.of_execute {c c' : UdpClient} {es : List Event} (hc : Reachable args c)
    (h : execute args c es = some c') : Reachable args c' := by
  induction es generalizing c with
  | nil => cases h; exact hc
  | cons e es ih =>
      simp only [IpkChat.Udp.execute] at h
      split at h
      · rename_i hstep
        exact ih (hc.step hstep.1 hstep.2) h
      · cases h

end Loop

end IpkChat.Udp
