import IpkChat.Basic

namespace IpkChat.Udp

/-! The binary wire format of `Udp_client`: header constants, ids, regexes and length windows. -/

def sBytesInMsgId : Nat := 2
def sBytesInProtocolMsgType : Nat := 1
def sBytesInReplyResult : Nat := 1
def sBytesInMsgHeader : Nat := sBytesInProtocolMsgType + sBytesInMsgId
/-- `sizeof(s_VARIABLE_LENGTH_DATA_TERMINATOR)`. -/
def sTerminatorSize : Nat := 1
def sMinVariableDataLength : Nat := 1
def sVariableLengthDataTerminator : UInt8 := 0

/-- `Udp_client::s_MAX_MSG_SIZE`. -/
def sMaxMsgSize : Nat :=
  sBytesInMsgHeader + sBytesInReplyResult + sBytesInMsgId + sMsgContentMaxLength + sTerminatorSize

/-- `htons`, as the bytes `addMsgIdToMsgToServer` and `sendConfirmMsg` append. -/
def msgIdBytes (id : UInt16) : Bytes :=
  [UInt8.ofNat (id.toNat / 256), UInt8.ofNat (id.toNat % 256)]

/-- `ntohs` of the two bytes that `memcpy` reads at `offset`. -/
def readMsgId (msg : Bytes) (offset : Nat) : UInt16 :=
  UInt16.ofNat ((msg.getD offset 0).toNat * 256 + (msg.getD (offset + 1) 0).toNat)

def getMsgId (msg : Bytes) : UInt16 := readMsgId msg sBytesInProtocolMsgType

def getRefMsgId (replyMsg : Bytes) : UInt16 :=
  readMsgId replyMsg (sBytesInMsgHeader + sBytesInReplyResult)

/-- The type byte `msg[0]`; an empty `std::string` reads its terminating NUL. -/
def msgType (msg : Bytes) : ProtocolMsgType := ProtocolMsgType.ofByte (msg.headD 0)

theorem readMsgId_cons (pre rest : Bytes) (a b : UInt8) :
    readMsgId (pre ++ a :: b :: rest) pre.length = UInt16.ofNat (a.toNat * 256 + b.toNat) := by
  rw [readMsgId, List.getD_append_right _ _ _ _ (Nat.le_refl _),
    List.getD_append_right _ _ _ _ (Nat.le_add_right _ 1), Nat.sub_self, Nat.add_sub_cancel_left]
  rfl

theorem readMsgId_append (pre rest : Bytes) (id : UInt16) :
    readMsgId (pre ++ msgIdBytes id ++ rest) pre.length = id := by
  have hid := id.toNat_lt
  have hhi : (UInt8.ofNat (id.toNat / 256)).toNat = id.toNat / 256 :=
    UInt8.toNat_ofNat_of_lt (by unfold UInt8.size; omega)
  have hlo : (UInt8.ofNat (id.toNat % 256)).toNat = id.toNat % 256 :=
    UInt8.toNat_ofNat_of_lt (by unfold UInt8.size; omega)
  rw [msgIdBytes, List.append_assoc, List.cons_append, List.cons_append, List.nil_append,
    readMsgId_cons, hhi, hlo]
  apply UInt16.toNat.inj
  rw [UInt16.toNat_ofNat_of_lt (by unfold UInt16.size; omega)]
  omega

/-- The id bytes of a message are the `htons` bytes of the id `ntohs` reads. -/
theorem msgIdBytes_readMsgId (pre rest : Bytes) (a b : UInt8) :
    msgIdBytes (readMsgId (pre ++ a :: b :: rest) pre.length) = [a, b] := by
  have ha := a.toNat_lt
  have hb := b.toNat_lt
  have hid : (UInt16.ofNat (a.toNat * 256 + b.toNat)).toNat = a.toNat * 256 + b.toNat :=
    UInt16.toNat_ofNat_of_lt (by unfold UInt16.size; omega)
  rw [readMsgId_cons, msgIdBytes, hid]
  congr 1 <;> [skip; congr 1] <;> apply UInt8.toNat.inj <;>
    rw [UInt8.toNat_ofNat_of_lt (by unfold UInt8.size; omega)] <;> omega

/-! The regexes of `Udp_client`: NUL-terminated fields, so each has one way to match. -/

/-- One field `([class]+)\x00` at the front of `s`: the captured group and the
bytes after its terminator. -/
def takeField (p : UInt8 → Bool) (s : Bytes) : Option (Bytes × Bytes) :=
  match s.span (· != 0) with
  | (field, _ :: rest) => if field ≠ [] ∧ field.all p then some (field, rest) else none
  | (_, []) => none

/-- `std::regex_match` against `getErrMsgRegex()`, which `getMsgMsgRegex()`
returns as well: display name, then content. -/
def matchErrMsgRegex (s : Bytes) : Option (Bytes × Bytes) :=
  match takeField isPrintableChar s with
  | some (displayName, rest) =>
      match takeField isPrintableCharSpaceLf rest with
      | some (content, []) => some (displayName, content)
      | _ => none
  | none => none

/-- `std::regex_match` against a regex of one field: its group when the field and
its terminator are the whole of `s`. -/
def matchOneField (p : UInt8 → Bool) (s : Bytes) : Option Bytes :=
  match takeField p s with
  | some (field, []) => some field
  | _ => none

/-- `std::regex_match` against `getByeMsgRegex()`: one display name. -/
def matchByeMsgRegex (s : Bytes) : Option Bytes := matchOneField isPrintableChar s

/-- `std::regex_match` against `getPrintableCharsSpaceLfAndTerminatorRegex()`. -/
def matchPrintableCharsSpaceLfAndTerminatorRegex (s : Bytes) : Option Bytes :=
  matchOneField isPrintableCharSpaceLf s

section Field

variable {p : UInt8 → Bool}

/-- A field of a class without NUL holds no NUL. -/
theorem bne_zero_of_mem {field : Bytes} (hclass : ∀ x ∈ field, p x) (hnul : p 0 = false) :
    ∀ x ∈ field, (x != 0) = true := by
  intro x hx
  rw [bne_iff_ne]
  rintro rfl
  simpa [hnul] using hclass 0 hx

theorem takeField_append {field : Bytes} (rest : Bytes) (hne : field ≠ [])
    (hclass : ∀ x ∈ field, p x) (hnul : p 0 = false) :
    takeField p (field ++ 0 :: rest) = some (field, rest) := by
  have hnz := bne_zero_of_mem hclass hnul
  have hspan : (field ++ 0 :: rest).span (· != 0) = (field, 0 :: rest) := by
    rw [List.span_eq_take_drop, List.takeWhile_append_of_pos hnz,
      List.dropWhile_append_of_pos hnz]
    simp
  simp only [takeField, hspan]
  simp [hne, List.all_eq_true.mpr hclass]

theorem takeField_eq_some {s field rest : Bytes} (h : takeField p s = some (field, rest)) :
    s = field ++ 0 :: rest ∧ field ≠ [] ∧ ∀ x ∈ field, p x := by
  unfold takeField at h
  split at h
  · rename_i nul rest' hspan
    split at h
    · rename_i hvalid
      cases h
      rw [List.span_eq_take_drop, Prod.mk.injEq] at hspan
      have hnul := List.head_dropWhile_not (· != 0) s (by simp [hspan.2])
      simp only [hspan.2, List.head_cons, bne_eq_false_iff_eq] at hnul
      refine ⟨?_, hvalid.1, by simpa using hvalid.2⟩
      rw [← List.takeWhile_append_dropWhile (p := (· != 0)) (l := s), hspan.1, hspan.2, hnul]
    · cases h
  · cases h

theorem matchOneField_append {field : Bytes} (hne : field ≠ []) (hclass : ∀ x ∈ field, p x)
    (hnul : p 0 = false) : matchOneField p (field ++ [0]) = some field := by
  rw [matchOneField, takeField_append [] hne hclass hnul]

theorem matchOneField_eq_some {s field : Bytes} (h : matchOneField p s = some field) :
    s = field ++ [0] ∧ field ≠ [] ∧ ∀ x ∈ field, p x := by
  unfold matchOneField at h
  split at h
  · cases h
    exact takeField_eq_some ‹_›
  · cases h

end Field

/-! The length windows, type checks and regexes each `isValid*` check applies. -/

/-- A closed window `lo ≤ n ≤ hi`, the shape of every variable-length check. -/
def lengthWithin (lo hi n : Nat) : Bool := lo ≤ n && n ≤ hi

def isValidConfirmMsgLength (n : Nat) : Bool := n == sBytesInMsgHeader

def isValidPingMsgLength (n : Nat) : Bool := n == sBytesInMsgHeader

def isValidMsgMsgLength (n : Nat) : Bool :=
  lengthWithin
    (sBytesInMsgHeader + sMinVariableDataLength + sTerminatorSize + sMinVariableDataLength +
      sTerminatorSize)
    (sBytesInMsgHeader + sDisplayNameMaxLength + sTerminatorSize + sMsgContentMaxLength +
      sTerminatorSize) n

def isValidErrMsgLength (n : Nat) : Bool :=
  lengthWithin
    (sBytesInMsgHeader + sMinVariableDataLength + sTerminatorSize + sMinVariableDataLength +
      sTerminatorSize)
    (sBytesInMsgHeader + sDisplayNameMaxLength + sTerminatorSize + sMsgContentMaxLength +
      sTerminatorSize) n

def isValidByeMsgLength (n : Nat) : Bool :=
  lengthWithin (sBytesInMsgHeader + sMinVariableDataLength + sTerminatorSize)
    (sBytesInMsgHeader + sDisplayNameMaxLength + sTerminatorSize) n

def isValidReplyMsgLength (n : Nat) : Bool :=
  lengthWithin
    (sBytesInMsgHeader + sBytesInReplyResult + sBytesInMsgId + sMinVariableDataLength +
      sTerminatorSize)
    (sBytesInProtocolMsgType + sBytesInMsgId + sBytesInReplyResult + sBytesInMsgId +
      sMsgContentMaxLength + sTerminatorSize) n

def isValidReplyMsgResult (result : UInt8) : Bool := result == 0 || result == 1

def isValidConfirmMsg (msg : Bytes) : Bool :=
  msgType msg == .mConfirm && isValidConfirmMsgLength msg.length

/-- The checks `isValidMsgMsg` and `isValidErrMsg` share: the length window and
the type byte, `getErrMsgRegex()` on the bytes after the header, then the
lengths of its two groups; the groups when every check passes. -/
def matchTwoFieldMsg (type : ProtocolMsgType) (isValidLength : Nat → Bool) (msg : Bytes) :
    Option (Bytes × Bytes) :=
  if !isValidLength msg.length || msgType msg != type then none
  else
    match matchErrMsgRegex (msg.drop sBytesInMsgHeader) with
    | some (displayName, content) =>
        if isValidDisplayNameLength displayName.length &&
            isValidMsgContentLength content.length then some (displayName, content)
        else none
    | none => none

/-- The checks of `Udp_client::isValidMsgMsg` and the groups it prints. -/
def matchMsgMsg (msg : Bytes) : Option (Bytes × Bytes) :=
  matchTwoFieldMsg .mMsg isValidMsgMsgLength msg

/-- The checks of `Udp_client::isValidErrMsg` and the groups it prints. -/
def matchErrMsg (msg : Bytes) : Option (Bytes × Bytes) :=
  matchTwoFieldMsg .mErr isValidErrMsgLength msg

def isValidByeMsg (msg : Bytes) : Bool :=
  isValidByeMsgLength msg.length && msgType msg == .mBye &&
    (matchByeMsgRegex (msg.drop sBytesInMsgHeader)).isSome

def isValidReplyMsg (replyMsg : Bytes) : Bool :=
  isValidReplyMsgLength replyMsg.length && msgType replyMsg == .mReply &&
    isValidReplyMsgResult (replyMsg.getD sBytesInMsgHeader 0) &&
    (matchPrintableCharsSpaceLfAndTerminatorRegex
      (replyMsg.drop (sBytesInMsgHeader + sBytesInReplyResult + sBytesInMsgId))).isSome

/-- The result byte of a REPLY, read as the `bool` `outputIncomingReply` takes. -/
def replyResult (replyMsg : Bytes) : Bool := replyMsg.getD sBytesInMsgHeader 0 != 0

/-- `reply_msg.c_str() + 6`: the C string after the REPLY header. -/
def replyContent (replyMsg : Bytes) : Bytes :=
  (replyMsg.drop (sBytesInMsgHeader + sBytesInReplyResult + sBytesInMsgId)).takeWhile (· != 0)

/-! What the `build*Msg` functions store in `m_msg_to_server`. -/

/-- `Udp_client::addMsgIdToMsgToServer`. -/
def addMsgIdToMsgToServer (msgToServer : Bytes) (msgId : UInt16) : Bytes :=
  msgToServer ++ msgIdBytes msgId

/-- A message as the builders lay it out: the type byte, the id appended by
`addMsgIdToMsgToServer`, then each field followed by the terminator. -/
def layout (type : ProtocolMsgType) (msgId : UInt16) (fields : List Bytes) : Bytes :=
  addMsgIdToMsgToServer [type.code] msgId ++
    (fields.map (· ++ [sVariableLengthDataTerminator])).flatten

end IpkChat.Udp
