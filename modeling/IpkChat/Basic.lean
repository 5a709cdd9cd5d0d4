import Mathlib

namespace IpkChat

/-! The data both clients share (`fsm.h`, `protocol-msg-type.h`, `client.h`). -/

abbrev Bytes := List UInt8

/-- A string literal of the source as the bytes of its `std::string`. -/
def ascii (s : String) : Bytes := s.toList.map Char.toUInt8

inductive FsmState
  | sStart
  | sAuth
  | sOpen
  | sJoin
  deriving DecidableEq, Repr

inductive ProtocolMsgType
  | mConfirm
  | mReply
  | mAuth
  | mJoin
  | mMsg
  | mPing
  | mErr
  | mBye
  | mUnknown
  deriving DecidableEq, Repr

namespace ProtocolMsgType

/-- The enumerator's value, the type byte of a UDP message. -/
def code : ProtocolMsgType → UInt8
  | mConfirm => 0x00
  | mReply => 0x01
  | mAuth => 0x02
  | mJoin => 0x03
  | mMsg => 0x04
  | mPing => 0xFD
  | mErr => 0xFE
  | mBye => 0xFF
  | mUnknown => 0x00

/-- `static_cast<Protocol_msg_type>(static_cast<unsigned char>(b))`: a byte that
names no enumerator compares unequal to all of them. -/
def ofByte (b : UInt8) : ProtocolMsgType :=
  if b = 0x00 then mConfirm else if b = 0x01 then mReply
  else if b = 0x02 then mAuth else if b = 0x03 then mJoin
  else if b = 0x04 then mMsg else if b = 0xFD then mPing
  else if b = 0xFE then mErr else if b = 0xFF then mBye else mUnknown

@[simp] theorem ofByte_code_mConfirm : ofByte mConfirm.code = mConfirm := rfl
@[simp] theorem ofByte_code_mReply : ofByte mReply.code = mReply := rfl
@[simp] theorem ofByte_code_mMsg : ofByte mMsg.code = mMsg := rfl
@[simp] theorem ofByte_code_mErr : ofByte mErr.code = mErr := rfl
@[simp] theorem ofByte_code_mBye : ofByte mBye.code = mBye := rfl

/-- One test of the `if` chain of `ofByte`. -/
theorem eq_or_of_ite_eq {b c : UInt8} {x rest t : ProtocolMsgType}
    (h : (if b = c then x else rest) = t) : (b = c ∧ x = t) ∨ rest = t := by
  by_cases hc : b = c
  · exact .inl ⟨hc, by rwa [if_pos hc] at h⟩
  · exact .inr (by rwa [if_neg hc] at h)

/-- A byte that names a message type is that type's code. -/
theorem eq_code_of_ofByte {b : UInt8} {t : ProtocolMsgType} (h : ofByte b = t)
    (hknown : t ≠ mUnknown) : b = t.code := by
  unfold ofByte at h
  iterate 8 (rcases eq_or_of_ite_eq h with ⟨hb, rfl⟩ | h; exact hb)
  exact absurd h.symm hknown

end ProtocolMsgType

/-! Limits of `Client` (`client.h`). -/

def sMsgContentMaxLength : Nat := 60000
def sDisplayNameMaxLength : Nat := 20
def sUsernameMaxLength : Nat := 20
def sChanelIdMaxLength : Nat := 20
def sUserSecretMaxLength : Nat := 128
def sMaxReplyWaitTime : Nat := 5

structure SockAddr where
  ip : UInt32
  port : UInt16
  deriving DecidableEq, Repr

/-- The members of `Args` the protocol engine reads; `m_server_addr` is the
destination that `Udp_client::processServerReplyMsg` may overwrite, so the
sessions keep their own copy of it. -/
structure Args where
  serverAddr : SockAddr
  udpConfirmTimeout : UInt16 := 250
  udpMaxRetransCount : UInt8 := 3
  deriving DecidableEq, Repr

/-! Character classes and length checks of `Client` (client.cpp is missing). -/

/-- Modelled from the spec: `Client::getPrintableChars` (client.cpp is missing),
the display-name class, bytes 0x21 to 0x7E. -/
def isPrintableChar (b : UInt8) : Bool := 0x21 ≤ b && b ≤ 0x7E

/-- Modelled from the spec: `Client::getPrintableCharsSpaceLf` (client.cpp is
missing), the content class, bytes 0x20 to 0x7E and LF. -/
def isPrintableCharSpaceLf (b : UInt8) : Bool := (0x20 ≤ b && b ≤ 0x7E) || b == 0x0A

/-- Modelled from the spec: `Client::getAlphaNumericUnderlineDash` (client.cpp is
missing), the username, channel and secret class. -/
def isAlphaNumericUnderlineDash (b : UInt8) : Bool :=
  (0x30 ≤ b && b ≤ 0x39) || (0x41 ≤ b && b ≤ 0x5A) || (0x61 ≤ b && b ≤ 0x7A) ||
    b == 0x5F || b == 0x2D

/-- Modelled from the spec: `Client::isValidDisplayNameLength` (client.cpp is missing). -/
def isValidDisplayNameLength (n : Nat) : Bool := 1 ≤ n && n ≤ sDisplayNameMaxLength

/-- Modelled from the spec: `Client::isValidMsgContentLength` (client.cpp is missing). -/
def isValidMsgContentLength (n : Nat) : Bool := 1 ≤ n && n ≤ sMsgContentMaxLength

theorem isValidDisplayNameLength_iff (n : Nat) :
    isValidDisplayNameLength n = true ↔ 1 ≤ n ∧ n ≤ 20 := by
  simp [isValidDisplayNameLength, sDisplayNameMaxLength]

theorem isValidMsgContentLength_iff (n : Nat) :
    isValidMsgContentLength n = true ↔ 1 ≤ n ∧ n ≤ 60000 := by
  simp [isValidMsgContentLength, sMsgContentMaxLength]

@[simp] theorem isPrintableChar_zero : isPrintableChar 0 = false := by decide
@[simp] theorem isPrintableCharSpaceLf_zero : isPrintableCharSpaceLf 0 = false := by decide

/-! Well-formed fields, as subtypes so that an invalid one cannot be built. -/

def IsDisplayName (b : Bytes) : Prop :=
  isValidDisplayNameLength b.length ∧ ∀ x ∈ b, isPrintableChar x

def IsContent (b : Bytes) : Prop :=
  isValidMsgContentLength b.length ∧ ∀ x ∈ b, isPrintableCharSpaceLf x

def IsIdentifier (maxLength : Nat) (b : Bytes) : Prop :=
  1 ≤ b.length ∧ b.length ≤ maxLength ∧ ∀ x ∈ b, isAlphaNumericUnderlineDash x

theorem IsDisplayName.length_le {displayName : Bytes} (h : IsDisplayName displayName) :
    1 ≤ displayName.length ∧ displayName.length ≤ 20 :=
  (isValidDisplayNameLength_iff _).mp h.1

theorem IsContent.length_le {content : Bytes} (h : IsContent content) :
    1 ≤ content.length ∧ content.length ≤ 60000 :=
  (isValidMsgContentLength_iff _).mp h.1

theorem IsDisplayName.ne_nil {displayName : Bytes} (h : IsDisplayName displayName) :
    displayName ≠ [] :=
  List.ne_nil_of_length_pos h.length_le.1

theorem IsContent.ne_nil {content : Bytes} (h : IsContent content) : content ≠ [] :=
  List.ne_nil_of_length_pos h.length_le.1

/-- A run of one printable byte is a display name of every allowed length. -/
theorem isDisplayName_replicate {n : Nat} {b : UInt8} (hn : isValidDisplayNameLength n)
    (hb : isPrintableChar b) : IsDisplayName (List.replicate n b) :=
  ⟨by rwa [List.length_replicate], fun x hx => List.eq_of_mem_replicate hx ▸ hb⟩

theorem isContent_replicate {n : Nat} {b : UInt8} (hn : isValidMsgContentLength n)
    (hb : isPrintableCharSpaceLf b) : IsContent (List.replicate n b) :=
  ⟨by rwa [List.length_replicate], fun x hx => List.eq_of_mem_replicate hx ▸ hb⟩

abbrev DisplayName := { b : Bytes // IsDisplayName b }
abbrev Content := { b : Bytes // IsContent b }
abbrev Username := { b : Bytes // IsIdentifier sUsernameMaxLength b }
abbrev ChannelId := { b : Bytes // IsIdentifier sChanelIdMaxLength b }
abbrev Secret := { b : Bytes // IsIdentifier sUserSecretMaxLength b }

/-! User input and what the client shows the user. -/

/-- Modelled from the spec: the tokens `Client::parseUserInput` returns for one
line (client.cpp is missing); `none` is the empty vector of an empty or
rejected line. -/
inductive UserInput
  | auth (username secret displayName : Bytes)
  | join (channelId : Bytes)
  | rename (displayName : Bytes)
  | help
  | msg (content : Bytes)
  deriving DecidableEq, Repr

/-- The message type `Client::getUserMsgType` gives the command. -/
def UserInput.msgType : UserInput → ProtocolMsgType
  | .auth .. => .mAuth
  | .join _ => .mJoin
  | .msg _ => .mMsg
  | _ => .mUnknown

/-- A line printed by `outputIncomingMsg`, `outputIncomingReply`,
`printErrFromServer`, `printErrMsg` (`error.cpp`) or `printSupportedCommands`. -/
inductive Output
  | incomingMsg (displayName content : Bytes)
  | incomingReply (isPositive : Bool) (content : Bytes)
  | errFromServer (displayName content : Bytes)
  | errMsg (text : Bytes)
  | supportedCommands
  deriving DecidableEq, Repr

/-- An observable action: a datagram or stream write, or a line for the user. -/
inductive Effect
  | sendTo (dest : SockAddr) (bytes : Bytes)
  | output (line : Output)
  deriving DecidableEq, Repr

/-- How a handler ends: the codes 0, 1 and 2 of `process*` (leave `run` with
success, with failure, or continue), or an `Exception` it throws. -/
inductive Verdict
  | exitSuccess
  | exitFailure
  | proceed
  | raise (explanation : String)
  deriving DecidableEq, Repr

/-- Modelled from the spec: `Client::canSendMessageType` (client.cpp is missing),
the "may send" column of the FSM table. -/
def canSendMessageType (state : FsmState) : ProtocolMsgType → Bool
  | .mAuth => state == .sStart || state == .sAuth
  | .mJoin => state == .sOpen
  | .mMsg => state == .sOpen
  | .mErr => true
  | .mBye => true
  | _ => false

/-- The moves of the "transitions" column of the FSM table: an AUTH sent, a
positive REPLY, a JOIN sent, any REPLY to the JOIN. -/
def fsmTransition : FsmState → FsmState → Bool
  | .sStart, .sAuth | .sAuth, .sOpen | .sOpen, .sJoin | .sJoin, .sOpen => true
  | _, _ => false

/-! The field checks of the commands, as Boolean tests. -/

def isValidIdentifier (maxLength : Nat) (b : Bytes) : Bool :=
  1 ≤ b.length && b.length ≤ maxLength && b.all isAlphaNumericUnderlineDash

def isValidDisplayName (b : Bytes) : Bool :=
  isValidDisplayNameLength b.length && b.all isPrintableChar

def isValidContent (b : Bytes) : Bool :=
  isValidMsgContentLength b.length && b.all isPrintableCharSpaceLf

/-- Modelled from the spec: the checks `Client::parseUserInput` makes of each
field of a command (client.cpp is missing). -/
def UserInput.isValid : UserInput → Bool
  | .auth username secret displayName =>
      isValidIdentifier sUsernameMaxLength username &&
        isValidIdentifier sUserSecretMaxLength secret && isValidDisplayName displayName
  | .join channelId => isValidIdentifier sChanelIdMaxLength channelId
  | .rename displayName => isValidDisplayName displayName
  | .help => true
  | .msg content => isValidContent content

/-- Modelled from the spec: `Client::processNonMsgToServer` leaves the input to
be sent, renames the user, or prints a line (client.cpp is missing). -/
inductive LocalAction
  | send
  | rename (displayName : Bytes)
  | print (line : Output)
  deriving DecidableEq, Repr

/-- Modelled from the spec: `Client::processNonMsgToServer` (client.cpp is
missing); a command with an invalid field, and one the phase does not allow,
is reported locally; `/help` and `/rename` are local. -/
def processNonMsgToServer (state : FsmState) (input : UserInput) : LocalAction :=
  if !input.isValid then .print (.errMsg (ascii "invalid command arguments."))
  else match input with
    | .help => .print .supportedCommands
    | .rename displayName => .rename displayName
    | input =>
        if canSendMessageType state input.msgType then .send
        else .print (.errMsg (ascii "command not allowed in the current state."))

/-- The flags of `m_actual_event` that `processStdinEvent` reads. -/
inductive StdinEvent
  | readable (input : Option UserInput)
  | hangup
  | error
  deriving DecidableEq, Repr

/-- A line that shows the user a message from the server. -/
def Output.isIncoming : Output → Bool
  | .incomingMsg .. => true
  | .incomingReply .. => true
  | .errFromServer .. => false
  | .errMsg _ => false
  | .supportedCommands => false

theorem processNonMsgToServer_print {state : FsmState} {input : UserInput} {line : Output}
    (h : processNonMsgToServer state input = .print line) : line.isIncoming = false := by
  unfold processNonMsgToServer at h
  split_ifs at h
  · cases h; rfl
  · split at h <;> (try split_ifs at h) <;> cases h <;> rfl

/-- What `processNonMsgToServer` lets through is a valid command the phase
allows. -/
theorem processNonMsgToServer_eq_send {state : FsmState} {input : UserInput} :
    processNonMsgToServer state input = .send ↔
      input.isValid = true ∧ canSendMessageType state input.msgType = true := by
  unfold processNonMsgToServer
  by_cases hvalid : input.isValid = true
  · cases input <;> simp [hvalid, UserInput.msgType, canSendMessageType, or_iff_not_imp_left]
  · simp [hvalid]

theorem canSendMessageType_of_send {state : FsmState} {input : UserInput}
    (h : processNonMsgToServer state input = .send) :
    canSendMessageType state input.msgType = true :=
  (processNonMsgToServer_eq_send.mp h).2

/-- `/auth` goes out only in `S_START` or `S_AUTH`. -/
theorem phase_of_send_auth {state : FsmState} {username secret displayName : Bytes}
    (h : processNonMsgToServer state (.auth username secret displayName) = .send) :
    state = .sStart ∨ state = .sAuth := by
  simpa [UserInput.msgType, canSendMessageType] using canSendMessageType_of_send h

/-- `/join` goes out only in `S_OPEN`. -/
theorem phase_of_send_join {state : FsmState} {channelId : Bytes}
    (h : processNonMsgToServer state (.join channelId) = .send) : state = .sOpen := by
  simpa [UserInput.msgType, canSendMessageType] using canSendMessageType_of_send h

end IpkChat
