import IpkChat.Tcp.Wire

namespace IpkChat.Tcp

/-! `Tcp_client` as explicit state passing, the receive buffer passed apart. -/

/-- The members of `Tcp_client` and its `Client` base that the handlers read or
write, the receive buffer apart; `serverAddr` is the peer of the connected
socket, `log` everything sent or printed so far. -/
structure TcpClient where
  currentState : FsmState
  userDisplayName : Bytes
  isWaitingForReply : Bool
  msgToServer : Bytes
  timer : Option Nat
  stdinRegistered : Bool
  serverAddr : SockAddr
  log : List Effect
  deriving DecidableEq, Repr

namespace TcpClient

/-- The client `Client::create` returns for `-t tcp`, connected and with stdin
registered. -/
def init (args : Args) : TcpClient where
  currentState := .sStart
  userDisplayName := ascii "unknown"
  isWaitingForReply := false
  msgToServer := []
  timer := none
  stdinRegistered := true
  serverAddr := args.serverAddr
  log := []

def emit (c : TcpClient) (e : Effect) : TcpClient := { c with log := c.log ++ [e] }

/-- Modelled from the spec: `Client::startTimer` (client.cpp is missing). -/
def startTimer (c : TcpClient) (time : Nat) : TcpClient := { c with timer := some time }

/-- Modelled from the spec: `Client::stopTimer` (client.cpp is missing). -/
def stopTimer (c : TcpClient) : TcpClient := { c with timer := none }

/-- Modelled from the spec: `Client::disableStdinEvents` (client.cpp is missing). -/
def disableStdinEvents (c : TcpClient) : TcpClient := { c with stdinRegistered := false }

/-- Modelled from the spec: `Client::enableStdinEvents` (client.cpp is missing). -/
def enableStdinEvents (c : TcpClient) : TcpClient := { c with stdinRegistered := true }

/-- `send()` is taken to succeed; the exception it throws on failure is not modelled. -/
def sendMsgToServer (c : TcpClient) : TcpClient := c.emit (.sendTo c.serverAddr c.msgToServer)

def buildJoinMsg (c : TcpClient) (channelId : Bytes) : TcpClient :=
  { c with msgToServer :=
      ascii "JOIN " ++ channelId ++ ascii " AS " ++ c.userDisplayName ++ sEndOfMessage }

def buildMsgMsg (c : TcpClient) (userMsg : Bytes) : TcpClient :=
  { c with msgToServer :=
      ascii "MSG FROM " ++ c.userDisplayName ++ ascii " IS " ++ userMsg ++ sEndOfMessage }

def buildAuthMsg (c : TcpClient) (username secret : Bytes) : TcpClient :=
  { c with msgToServer :=
      ascii "AUTH " ++ username ++ ascii " AS " ++ c.userDisplayName ++ ascii " USING " ++ secret ++
        sEndOfMessage }

def buildErrMsg (c : TcpClient) (content : Bytes) : TcpClient :=
  { c with msgToServer :=
      ascii "ERR FROM " ++ c.userDisplayName ++ ascii " IS " ++ content ++ sEndOfMessage }

def buildByeMsg (c : TcpClient) : TcpClient :=
  { c with msgToServer := ascii "BYE FROM " ++ c.userDisplayName ++ sEndOfMessage }

/-- Modelled from the spec: `Client::buildUserMsgToServer` (client.cpp is
missing). -/
def buildUserMsgToServer (c : TcpClient) : UserInput → TcpClient
  | .auth username secret _ => c.buildAuthMsg username secret
  | .join channelId => c.buildJoinMsg channelId
  | .msg content => c.buildMsgMsg content
  | _ => c

def sendErrMsgAndTerminate (c : TcpClient) (errMsg : String) : TcpClient × Verdict :=
  ((c.buildErrMsg (ascii errMsg)).sendMsgToServer, .raise errMsg)

@[simp] theorem sendErrMsgAndTerminate_verdict (c : TcpClient) (errMsg : String) :
    (c.sendErrMsgAndTerminate errMsg).2 = .raise errMsg := rfl

def sendByeMsgToServer (c : TcpClient) : TcpClient := c.buildByeMsg.sendMsgToServer

def sigintHandler (c : TcpClient) : TcpClient × Verdict := (c.sendByeMsgToServer, .raise "")

def processTimerEvent (c : TcpClient) : TcpClient × Verdict :=
  if c.isWaitingForReply then c.sendErrMsgAndTerminate "waited too long for the server's reply."
  else (c, .raise "timer event, but waiting_for_reply is false.")

/-- The part of `processStdinEvent` after `processNonMsgToServer` has let the
input through.  `/join` moves to `S_JOIN` before the JOIN is built. -/
def sendUserInput (c : TcpClient) (input : UserInput) : TcpClient :=
  let c := match input with
    | .auth _ _ displayName => { c with userDisplayName := displayName }
    | _ => c
  let c := if input.msgType = .mJoin then { c with currentState := .sJoin } else c
  let c := (c.buildUserMsgToServer input).sendMsgToServer
  let c := if input.msgType = .mAuth ∧ c.currentState = .sStart
    then { c with currentState := .sAuth } else c
  if input.msgType = .mAuth ∨ input.msgType = .mJoin then
    { (c.disableStdinEvents.startTimer (sMaxReplyWaitTime * 1000)) with isWaitingForReply := true }
  else c

def processStdinEvent (c : TcpClient) : StdinEvent → TcpClient × Verdict
  | .hangup => (c.sendByeMsgToServer, .raise "")
  | .error => (c, .raise "stdin error occurred.")
  | .readable none => (c, .proceed)
  | .readable (some input) =>
      match processNonMsgToServer c.currentState input with
      | .rename displayName => ({ c with userDisplayName := displayName }, .proceed)
      | .print line => (c.emit (.output line), .proceed)
      | .send => (c.sendUserInput input, .proceed)

/-! The handlers of server messages. -/

/-- The checks `processServerMsgMsg` and `processServerErrMsg` share: the regex,
then the lengths of its two groups. -/
def matchFromIsMsg (keyword frame : Bytes) : Option (Bytes × Bytes) :=
  match matchFromIsRegex keyword frame with
  | some (displayName, content) =>
      if isValidDisplayNameLength displayName.length && isValidMsgContentLength content.length then
        some (displayName, content)
      else none
  | none => none

/-- `processServerMsgMsg` and `processServerErrMsg`: show the two groups of a
well-formed message, or send an ERR and terminate. -/
def processServerFromIsMsg (keyword : Bytes) (display : Bytes → Bytes → Output) (malformed : String)
    (c : TcpClient) (frame : Bytes) : TcpClient × Verdict :=
  match matchFromIsMsg keyword frame with
  | some (displayName, content) => (c.emit (.output (display displayName content)), .proceed)
  | none => c.sendErrMsgAndTerminate malformed

def processServerMsgMsg (c : TcpClient) (msgMsgFromServer : Bytes) : TcpClient × Verdict :=
  processServerFromIsMsg (ascii "MSG FROM ") .incomingMsg
    "received a malformed MSG message from the server." c msgMsgFromServer

def processServerErrMsg (c : TcpClient) (errMsgFromServer : Bytes) : TcpClient × Verdict :=
  processServerFromIsMsg (ascii "ERR FROM ") .errFromServer
    "received a malformed ERR message from the server." c errMsgFromServer

def processServerByeMsg (c : TcpClient) (byeMsgFromServer : Bytes) : TcpClient × Verdict :=
  match matchByeMsgRegex byeMsgFromServer with
  | some displayName =>
      if isValidDisplayNameLength displayName.length then (c, .proceed)
      else c.sendErrMsgAndTerminate "received a malformed BYE message from the server."
  | none => c.sendErrMsgAndTerminate "received a malformed BYE message from the server."

def processServerReplyMsg (c : TcpClient) (replyMsgFromServer : Bytes) : TcpClient × Verdict :=
  if c.currentState ≠ .sAuth ∧ c.currentState ≠ .sJoin then
    c.sendErrMsgAndTerminate "received a REPLY message in unexpected state."
  else if c.isWaitingForReply then
    match matchReplyMsgRegex replyMsgFromServer with
    | some (result, content) =>
        if isValidMsgContentLength content.length then
          let c := c.stopTimer
          let isPositiveReply := eqIgnoreCase result (ascii "OK")
          let c := c.emit (.output (.incomingReply isPositiveReply content))
          let c := if c.currentState = .sJoin ∨ isPositiveReply = true
            then { c with currentState := .sOpen } else c
          ({ c with isWaitingForReply := false }.enableStdinEvents, .proceed)
        else c.sendErrMsgAndTerminate "received a malformed REPLY message from the server."
    | none => c.sendErrMsgAndTerminate "received a malformed REPLY message from the server."
  else c.sendErrMsgAndTerminate "didn't expect any reply message from the server."

/-- `buffer` is the member `m_msg_from_server` the type is read from,
`msgFromServer` the frame being processed.  The codes 0 and 1 are `exitSuccess`
and `exitFailure`, 2 is `proceed`. -/
def processMessageFromServer (c : TcpClient) (buffer msgFromServer : Bytes) :
    TcpClient × Verdict :=
  let typeOfMsgFromServer := getServerMsgType buffer
  if typeOfMsgFromServer = .mUnknown then
    c.sendErrMsgAndTerminate
      "only messages of types BYE, ERR, MSG and REPLY are expected to be received from the server."
  else if typeOfMsgFromServer = .mBye then
    match c.processServerByeMsg msgFromServer with
    | (c, .proceed) => (c, .exitSuccess)
    | result => result
  else if typeOfMsgFromServer = .mErr then
    match c.processServerErrMsg msgFromServer with
    | (c, .proceed) => (c, .exitFailure)
    | result => result
  else
    match c.currentState with
    | .sStart =>
        c.sendErrMsgAndTerminate ("only messages of types BYE and ERR are expected to be " ++
          "received from the server in the client's START state.")
    | .sAuth =>
        if typeOfMsgFromServer = .mReply then c.processServerReplyMsg msgFromServer
        else c.sendErrMsgAndTerminate ("only messages of types BYE, ERR and REPLY are expected " ++
          "to be received from the server in the client's AUTH state.")
    | .sOpen =>
        if typeOfMsgFromServer = .mMsg then c.processServerMsgMsg msgFromServer
        else c.sendErrMsgAndTerminate ("only messages of types BYE, ERR and MSG are expected to " ++
          "be received from the server in the client's OPEN state.")
    | .sJoin =>
        if typeOfMsgFromServer = .mReply then c.processServerReplyMsg msgFromServer
        else if typeOfMsgFromServer = .mMsg then c.processServerMsgMsg msgFromServer
        else c.sendErrMsgAndTerminate ("only messages of types BYE, ERR, MSG and REPLY are " ++
          "expected to be received from the server in the client's JOIN state.")

/-- The `while` loop of `processSocketEvent` over the buffer: cut the frame up
to the first `\r\n`, check its length, process it, erase it. -/
def processFrames (c : TcpClient) (msgFromServer : Bytes) : TcpClient × Bytes × Verdict :=
  match _hend : findEndOfMessage msgFromServer with
  | some endOfMsgPosition =>
      let singleMsg := msgFromServer.take (endOfMsgPosition + sBytesInEndOfMessage)
      if sMaxMsgSize < singleMsg.length then
        let (c, verdict) := c.sendErrMsgAndTerminate "too long message from server."
        (c, msgFromServer, verdict)
      else
        match c.processMessageFromServer msgFromServer singleMsg with
        | (c, .proceed) =>
            processFrames c (msgFromServer.drop (endOfMsgPosition + sBytesInEndOfMessage))
        | (c, verdict) => (c, msgFromServer, verdict)
  | none =>
      if sMaxMsgSize ≤ msgFromServer.length then
        let (c, verdict) := c.sendErrMsgAndTerminate "too long message from server."
        (c, msgFromServer, verdict)
      else (c, msgFromServer, .proceed)
termination_by msgFromServer.length
decreasing_by
  have := (findEndOfMessage_eq_some _hend).1
  simp only [List.length_drop, sBytesInEndOfMessage]
  omega

/-- `received` is what `recv` returned; nothing is the server closing the
connection. -/
def processSocketEvent (c : TcpClient) (msgFromServer received : Bytes) :
    TcpClient × Bytes × Verdict :=
  if received = [] then (c, msgFromServer, .exitSuccess)
  else c.processFrames (msgFromServer ++ received)

end TcpClient

/-! The event loop `Client::run`. -/

/-- Modelled from the spec: what one wake of `epoll_wait` in `Client::run` hands
to the client (client.cpp is missing): a stdin event, the expiry of the timer,
SIGINT, what one `recv` returned, or a failed `recv`. -/
inductive Event
  | stdin (event : StdinEvent)
  | timerExpired
  | sigint
  | received (bytes : Bytes)
  | recvFailed
  deriving DecidableEq, Repr

/-- Modelled from the spec: epoll reports stdin only while it is registered and
the timer only while it is armed. -/
def Event.enabled (c : TcpClient) : Event → Bool
  | .stdin _ => c.stdinRegistered
  | .timerExpired => c.timer.isSome
  | _ => true

/-- One wake of the event loop on the client and its receive buffer.  The expiry
disarms the one-shot timer before `processTimerEvent` runs. -/
def step (s : TcpClient × Bytes) : Event → (TcpClient × Bytes) × Verdict
  | .stdin event =>
      let (c, verdict) := s.1.processStdinEvent event
      ((c, s.2), verdict)
  | .timerExpired =>
      let (c, verdict) := { s.1 with timer := none }.processTimerEvent
      ((c, s.2), verdict)
  | .sigint =>
      let (c, verdict) := s.1.sigintHandler
      ((c, s.2), verdict)
  | .received bytes =>
      let (c, msgFromServer, verdict) := s.1.processSocketEvent s.2 bytes
      ((c, msgFromServer), verdict)
  | .recvFailed =>
      let (c, verdict) := s.1.sendErrMsgAndTerminate
        "couldn't receive a message from the server: recv() has failed."
      ((c, s.2), verdict)

/-- The states the session can be in while `run` keeps looping. -/
inductive Reachable (args : Args) : TcpClient × Bytes → Prop
  | init : Reachable args (TcpClient.init args, [])
  | step {s : TcpClient × Bytes} {e : Event} :
      Reachable args s → e.enabled s.1 → (step s e).2 = .proceed → Reachable args (step s e).1

end IpkChat.Tcp
