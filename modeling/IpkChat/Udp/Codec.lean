import IpkChat.Udp.Client

namespace IpkChat.Udp

/-! The binary codec of `Udp_client`: type, big-endian id, NUL-terminated fields. -/

/-- A message of the binary variant with its fields. -/
inductive BinaryMsg
  | confirm
  | reply (result : Bool) (refMsgId : UInt16) (content : Bytes)
  | auth (username displayName secret : Bytes)
  | join (channelId displayName : Bytes)
  | msg (displayName content : Bytes)
  | ping
  | err (displayName content : Bytes)
  | bye (displayName : Bytes)

/-- The layout of a message sent with id `id`. -/
def BinaryMsg.encode (id : UInt16) : BinaryMsg → Bytes
  | confirm => [0x00] ++ msgIdBytes id
  | reply result refMsgId content =>
      [0x01] ++ msgIdBytes id ++ [if result then 1 else 0] ++ msgIdBytes refMsgId ++ content ++ [0]
  | auth username displayName secret =>
      [0x02] ++ msgIdBytes id ++ username ++ [0] ++ displayName ++ [0] ++ secret ++ [0]
  | join channelId displayName => [0x03] ++ msgIdBytes id ++ channelId ++ [0] ++ displayName ++ [0]
  | msg displayName content => [0x04] ++ msgIdBytes id ++ displayName ++ [0] ++ content ++ [0]
  | ping => [0xFD] ++ msgIdBytes id
  | err displayName content => [0xFE] ++ msgIdBytes id ++ displayName ++ [0] ++ content ++ [0]
  | bye displayName => [0xFF] ++ msgIdBytes id ++ displayName ++ [0]

/-! The header. -/

theorem getMsgId_header (type : UInt8) (id : UInt16) (body : Bytes) :
    getMsgId (type :: (msgIdBytes id ++ body)) = id := by
  simpa using readMsgId_append [type] body id

@[simp] theorem drop_header (type : UInt8) (id : UInt16) (body : Bytes) :
    (type :: (msgIdBytes id ++ body)).drop sBytesInMsgHeader = body := rfl

@[simp] theorem length_header (type : UInt8) (id : UInt16) (body : Bytes) :
    (type :: (msgIdBytes id ++ body)).length = body.length + 3 := by
  simp [msgIdBytes]

@[simp] theorem msgType_header (type : UInt8) (id : UInt16) (body : Bytes) :
    msgType (type :: (msgIdBytes id ++ body)) = ProtocolMsgType.ofByte type := rfl

theorem header_le_length {d : Bytes} (h : d.drop sBytesInMsgHeader ≠ []) : 3 ≤ d.length := by
  by_contra hshort
  exact h (List.drop_eq_nil_of_le (by unfold sBytesInMsgHeader sBytesInProtocolMsgType sBytesInMsgId; omega))

/-- A message at least as long as the header is its type code, the `htons`
bytes of the id `getMsgId` reads, and the rest. -/
theorem eq_header {d : Bytes} {type : ProtocolMsgType} (htype : msgType d = type)
    (hknown : type ≠ .mUnknown) (hlen : 3 ≤ d.length) :
    d = type.code :: (msgIdBytes (getMsgId d) ++ d.drop sBytesInMsgHeader) := by
  rcases d with _ | ⟨a, _ | ⟨b, _ | ⟨e, rest⟩⟩⟩
  all_goals simp only [List.length_nil, List.length_cons] at hlen
  any_goals omega
  have hcode := ProtocolMsgType.eq_code_of_ofByte htype hknown
  have hid := msgIdBytes_readMsgId [a] rest b e
  simp only [List.singleton_append, List.length_singleton] at hid
  simp only [msgType, List.headD_cons] at hcode
  simp only [getMsgId, sBytesInProtocolMsgType, hid, ← hcode]
  rfl

/-! The encoders. -/

theorem layout_eq (type : ProtocolMsgType) (id : UInt16) (fields : List Bytes) :
    layout type id fields = type.code :: (msgIdBytes id ++ (fields.map (· ++ [0])).flatten) := rfl

namespace UdpClient

variable (c : UdpClient)

theorem sendConfirmMsg_encode (k : UInt16) :
    (c.sendConfirmMsg k).log = c.log ++ [.sendTo c.serverAddr (BinaryMsg.confirm.encode k)] := by
  simp [sendConfirmMsg, emit, layout_eq, BinaryMsg.encode, ProtocolMsgType.code]

theorem buildAuthMsg_encode (username secret : Bytes) :
    (c.buildAuthMsg username secret).msgToServer =
      (BinaryMsg.auth username c.userDisplayName secret).encode c.msgToServerId := by
  simp [buildAuthMsg, layout_eq, BinaryMsg.encode, ProtocolMsgType.code]

theorem buildJoinMsg_encode (channelId : Bytes) :
    (c.buildJoinMsg channelId).msgToServer =
      (BinaryMsg.join channelId c.userDisplayName).encode c.msgToServerId := by
  simp [buildJoinMsg, layout_eq, BinaryMsg.encode, ProtocolMsgType.code]

theorem buildMsgMsg_encode (userMsg : Bytes) :
    (c.buildMsgMsg userMsg).msgToServer =
      (BinaryMsg.msg c.userDisplayName userMsg).encode c.msgToServerId := by
  simp [buildMsgMsg, layout_eq, BinaryMsg.encode, ProtocolMsgType.code]

/-- The ERR carries the id `buildErrMsg` has just advanced to. -/
theorem buildErrMsg_encode (content : Bytes) :
    (c.buildErrMsg content).msgToServer =
      (BinaryMsg.err c.userDisplayName content).encode (c.buildErrMsg content).msgToServerId := by
  simp [buildErrMsg, layout_eq, BinaryMsg.encode, ProtocolMsgType.code]

theorem buildByeMsg_encode :
    c.buildByeMsg.msgToServer =
      (BinaryMsg.bye c.userDisplayName).encode c.buildByeMsg.msgToServerId := by
  simp [buildByeMsg, layout_eq, BinaryMsg.encode, ProtocolMsgType.code]

end UdpClient

/-! The regexes on well-formed fields. -/

theorem matchErrMsgRegex_fields {displayName content : Bytes} (hdisplayName : IsDisplayName displayName)
    (hcontent : IsContent content) :
    matchErrMsgRegex (displayName ++ 0 :: (content ++ [0])) = some (displayName, content) := by
  rw [matchErrMsgRegex, takeField_append _ hdisplayName.ne_nil hdisplayName.2 isPrintableChar_zero]
  simp only
  rw [takeField_append [] hcontent.ne_nil hcontent.2 isPrintableCharSpaceLf_zero]

theorem matchErrMsgRegex_eq_some {s displayName content : Bytes}
    (h : matchErrMsgRegex s = some (displayName, content)) :
    s = displayName ++ 0 :: (content ++ [0]) ∧ (∀ x ∈ displayName, isPrintableChar x) ∧
      ∀ x ∈ content, isPrintableCharSpaceLf x := by
  unfold matchErrMsgRegex at h
  cases h₁ : takeField isPrintableChar s with
  | none => simp [h₁] at h
  | some first =>
      obtain ⟨displayName', rest⟩ := first
      cases h₂ : takeField isPrintableCharSpaceLf rest with
      | none => simp [h₁, h₂] at h
      | some second =>
          obtain ⟨content', rest'⟩ := second
          cases rest' with
          | cons _ _ => simp [h₁, h₂] at h
          | nil =>
              simp only [h₁, h₂, Option.some.injEq, Prod.mk.injEq] at h
              obtain ⟨rfl, rfl⟩ := h
              obtain ⟨hs, -, hdn⟩ := takeField_eq_some h₁
              obtain ⟨hrest, -, hc⟩ := takeField_eq_some h₂
              exact ⟨by rw [hs, hrest], hdn, hc⟩

/-! The decoders on encodings, and the encodings they accept. -/

section Decode

variable {type : ProtocolMsgType} {isValidLength : Nat → Bool}

theorem getMsgId_encode (id : UInt16) (m : BinaryMsg) : getMsgId (m.encode id) = id := by
  cases m <;> simp only [BinaryMsg.encode, List.append_assoc, List.singleton_append] <;>
    exact getMsgId_header _ _ _

theorem encode_confirm (id : UInt16) :
    BinaryMsg.confirm.encode id = ProtocolMsgType.mConfirm.code :: (msgIdBytes id ++ []) := by
  simp [BinaryMsg.encode, ProtocolMsgType.code]

theorem encode_msg (id : UInt16) (displayName content : Bytes) :
    (BinaryMsg.msg displayName content).encode id =
      ProtocolMsgType.mMsg.code :: (msgIdBytes id ++ (displayName ++ 0 :: (content ++ [0]))) := by
  simp [BinaryMsg.encode, ProtocolMsgType.code]

theorem encode_err (id : UInt16) (displayName content : Bytes) :
    (BinaryMsg.err displayName content).encode id =
      ProtocolMsgType.mErr.code :: (msgIdBytes id ++ (displayName ++ 0 :: (content ++ [0]))) := by
  simp [BinaryMsg.encode, ProtocolMsgType.code]

theorem encode_bye (id : UInt16) (displayName : Bytes) :
    (BinaryMsg.bye displayName).encode id =
      ProtocolMsgType.mBye.code :: (msgIdBytes id ++ (displayName ++ [0])) := by
  simp [BinaryMsg.encode, ProtocolMsgType.code]

theorem encode_reply (id : UInt16) (result : Bool) (refMsgId : UInt16) (content : Bytes) :
    (BinaryMsg.reply result refMsgId content).encode id =
      ProtocolMsgType.mReply.code :: (msgIdBytes id ++
        ((if result then 1 else 0) :: (msgIdBytes refMsgId ++ (content ++ [0])))) := by
  simp [BinaryMsg.encode, ProtocolMsgType.code]

/-- The length window of MSG, which ERR shares, admits every pair of
well-formed fields. -/
theorem isValidMsgMsgLength_fields {displayName content : Bytes}
    (hdisplayName : IsDisplayName displayName) (hcontent : IsContent content) :
    isValidMsgMsgLength (displayName.length + 1 + content.length + 1 + 3) = true := by
  have := hdisplayName.length_le
  have := hcontent.length_le
  simp only [isValidMsgMsgLength, lengthWithin, sBytesInMsgHeader, sBytesInProtocolMsgType,
    sBytesInMsgId, sMinVariableDataLength, sTerminatorSize, sDisplayNameMaxLength,
    sMsgContentMaxLength, Bool.and_eq_true, decide_eq_true_eq]
  omega

/-- The MSG and ERR decoders accept a well-formed two-field message of their type. -/
theorem matchTwoFieldMsg_fields (id : UInt16) {displayName content : Bytes}
    (hdisplayName : IsDisplayName displayName) (hcontent : IsContent content)
    (htype : ProtocolMsgType.ofByte type.code = type)
    (hlength : isValidLength (displayName.length + 1 + content.length + 1 + 3)) :
    matchTwoFieldMsg type isValidLength
      (type.code :: (msgIdBytes id ++ (displayName ++ 0 :: (content ++ [0])))) =
      some (displayName, content) := by
  have hlen : (displayName ++ 0 :: (content ++ [0])).length + 3 =
      displayName.length + 1 + content.length + 1 + 3 := by simp; omega
  simp only [matchTwoFieldMsg, length_header, hlen, hlength, msgType_header, htype,
    drop_header, matchErrMsgRegex_fields hdisplayName hcontent, hdisplayName.1, hcontent.1]
  simp

/-- Whatever the MSG and ERR decoders accept is a two-field message of their type
with well-formed fields. -/
theorem matchTwoFieldMsg_eq_some {d displayName content : Bytes}
    (h : matchTwoFieldMsg type isValidLength d = some (displayName, content))
    (hknown : type ≠ .mUnknown) :
    IsDisplayName displayName ∧ IsContent content ∧
      d = type.code :: (msgIdBytes (getMsgId d) ++ (displayName ++ 0 :: (content ++ [0]))) := by
  unfold matchTwoFieldMsg at h
  split_ifs at h with hchecks
  cases hregex : matchErrMsgRegex (d.drop sBytesInMsgHeader) with
  | none => simp [hregex] at h
  | some fields =>
      obtain ⟨displayName', content'⟩ := fields
      simp only [hregex] at h
      split_ifs at h with hlengths
      simp only [Option.some.injEq, Prod.mk.injEq] at h
      obtain ⟨rfl, rfl⟩ := h
      obtain ⟨hdrop, hdn, hc⟩ := matchErrMsgRegex_eq_some hregex
      simp only [Bool.and_eq_true] at hlengths
      simp only [Bool.or_eq_true, Bool.not_eq_true', bne_iff_ne, ne_eq, not_or, not_not,
        Bool.not_eq_false] at hchecks
      have hlong : 3 ≤ d.length := header_le_length (by simp [hdrop])
      refine ⟨⟨hlengths.1, hdn⟩, ⟨hlengths.2, hc⟩, ?_⟩
      conv_lhs => rw [eq_header hchecks.2 hknown hlong]
      rw [hdrop]

theorem matchMsgMsg_encode (id : UInt16) (displayName : DisplayName) (content : Content) :
    matchMsgMsg ((BinaryMsg.msg displayName.1 content.1).encode id) =
      some (displayName.1, content.1) := by
  rw [encode_msg]
  exact matchTwoFieldMsg_fields id displayName.2 content.2 rfl
    (isValidMsgMsgLength_fields displayName.2 content.2)

theorem matchErrMsg_encode (id : UInt16) (displayName : DisplayName) (content : Content) :
    matchErrMsg ((BinaryMsg.err displayName.1 content.1).encode id) =
      some (displayName.1, content.1) := by
  rw [encode_err]
  exact matchTwoFieldMsg_fields id displayName.2 content.2 rfl
    (isValidMsgMsgLength_fields displayName.2 content.2)

theorem matchMsgMsg_eq_some {d displayName content : Bytes}
    (h : matchMsgMsg d = some (displayName, content)) :
    IsDisplayName displayName ∧ IsContent content ∧
      d = (BinaryMsg.msg displayName content).encode (getMsgId d) := by
  rw [encode_msg]
  exact matchTwoFieldMsg_eq_some h (by decide)

theorem matchErrMsg_eq_some {d displayName content : Bytes}
    (h : matchErrMsg d = some (displayName, content)) :
    IsDisplayName displayName ∧ IsContent content ∧
      d = (BinaryMsg.err displayName content).encode (getMsgId d) := by
  rw [encode_err]
  exact matchTwoFieldMsg_eq_some h (by decide)

theorem isValidConfirmMsg_encode (id : UInt16) :
    isValidConfirmMsg (BinaryMsg.confirm.encode id) = true := rfl

theorem isValidConfirmMsg_eq {d : Bytes} (h : isValidConfirmMsg d = true) :
    d = BinaryMsg.confirm.encode (getMsgId d) := by
  simp only [isValidConfirmMsg, isValidConfirmMsgLength, Bool.and_eq_true, beq_iff_eq] at h
  have hrest : d.drop sBytesInMsgHeader = [] := List.drop_eq_nil_of_le (by rw [h.2])
  conv_lhs => rw [eq_header h.1 (by decide) (by rw [h.2]; rfl), hrest]
  rw [encode_confirm]

theorem isValidByeMsg_encode (id : UInt16) (displayName : DisplayName) :
    isValidByeMsg ((BinaryMsg.bye displayName.1).encode id) = true ∧
      matchByeMsgRegex (((BinaryMsg.bye displayName.1).encode id).drop sBytesInMsgHeader) =
        some displayName.1 := by
  obtain ⟨displayName, hdisplayName⟩ := displayName
  have hmatch : matchByeMsgRegex (displayName ++ [0]) = some displayName :=
    matchOneField_append hdisplayName.ne_nil hdisplayName.2 isPrintableChar_zero
  have := hdisplayName.length_le
  simp only [encode_bye, isValidByeMsg, length_header, msgType_header, drop_header, hmatch,
    ProtocolMsgType.ofByte_code_mBye, beq_self_eq_true, Option.isSome_some, Bool.and_true,
    and_true]
  simp only [isValidByeMsgLength, lengthWithin, List.length_append, List.length_singleton,
    sBytesInMsgHeader, sBytesInProtocolMsgType, sBytesInMsgId, sMinVariableDataLength,
    sTerminatorSize, sDisplayNameMaxLength, Bool.and_eq_true, decide_eq_true_eq]
  omega

theorem isValidByeMsg_eq {d : Bytes} (h : isValidByeMsg d = true) :
    ∃ displayName, IsDisplayName displayName ∧
      matchByeMsgRegex (d.drop sBytesInMsgHeader) = some displayName ∧
      d = (BinaryMsg.bye displayName).encode (getMsgId d) := by
  simp only [isValidByeMsg, Bool.and_eq_true, beq_iff_eq, Option.isSome_iff_exists] at h
  obtain ⟨⟨hlength, htype⟩, displayName, hmatch⟩ := h
  obtain ⟨hdrop, hne, hclass⟩ := matchOneField_eq_some hmatch
  have hfield := congrArg List.length hdrop
  simp only [List.length_drop, List.length_append, List.length_singleton, sBytesInMsgHeader,
    sBytesInProtocolMsgType, sBytesInMsgId] at hfield
  simp only [isValidByeMsgLength, lengthWithin, sBytesInMsgHeader, sBytesInProtocolMsgType,
    sBytesInMsgId, sMinVariableDataLength, sTerminatorSize, sDisplayNameMaxLength,
    Bool.and_eq_true, decide_eq_true_eq] at hlength
  have hpos := List.length_pos.mpr hne
  refine ⟨displayName, ⟨(isValidDisplayNameLength_iff _).mpr (by omega), hclass⟩, hmatch, ?_⟩
  conv_lhs => rw [eq_header htype (by decide) (by omega), hdrop]
  rw [encode_bye]

/-! REPLY carries a result byte and a second id between the header and its content. -/

theorem replyContent_of_drop {d content : Bytes}
    (hdrop : d.drop (sBytesInMsgHeader + sBytesInReplyResult + sBytesInMsgId) = content ++ [0])
    (hclass : ∀ x ∈ content, isPrintableCharSpaceLf x) : replyContent d = content := by
  rw [replyContent, hdrop,
    List.takeWhile_append_of_pos (bne_zero_of_mem hclass isPrintableCharSpaceLf_zero)]
  simp

theorem replyResult_byte {d : Bytes} (h : isValidReplyMsgResult (d.getD sBytesInMsgHeader 0) = true) :
    d.getD sBytesInMsgHeader 0 = if replyResult d then 1 else 0 := by
  simp only [isValidReplyMsgResult, Bool.or_eq_true, beq_iff_eq] at h
  rcases h with h | h <;> rw [replyResult, h] <;> rfl

/-- A REPLY of at least six bytes is its header, the result byte, the `htons`
bytes of the id `getRefMsgId` reads, and the rest. -/
theorem eq_reply_header {d : Bytes} (htype : msgType d = .mReply) (hlen : 6 ≤ d.length) :
    d = ProtocolMsgType.mReply.code :: (msgIdBytes (getMsgId d) ++ (d.getD sBytesInMsgHeader 0 ::
      (msgIdBytes (getRefMsgId d) ++ d.drop (sBytesInMsgHeader + sBytesInReplyResult + sBytesInMsgId)))) := by
  rcases d with _ | ⟨a, _ | ⟨b, _ | ⟨e, _ | ⟨r, _ | ⟨f, _ | ⟨g, rest⟩⟩⟩⟩⟩⟩
  all_goals simp only [List.length_nil, List.length_cons] at hlen
  any_goals omega
  have hcode := ProtocolMsgType.eq_code_of_ofByte htype (by decide)
  have hid := msgIdBytes_readMsgId [a] (r :: f :: g :: rest) b e
  have href := msgIdBytes_readMsgId [a, b, e, r] rest f g
  simp only [msgType, List.headD_cons] at hcode
  simp only [List.singleton_append, List.length_singleton, List.cons_append, List.nil_append,
    List.length_cons, List.length_nil] at hid href
  simp only [getMsgId, getRefMsgId, sBytesInProtocolMsgType, hid, ← hcode]
  rw [show sBytesInMsgHeader + sBytesInReplyResult = 4 from rfl, href]
  rfl

theorem isValidReplyMsg_encode (id : UInt16) (result : Bool) (refMsgId : UInt16) (content : Content) :
    isValidReplyMsg ((BinaryMsg.reply result refMsgId content.1).encode id) = true ∧
      getRefMsgId ((BinaryMsg.reply result refMsgId content.1).encode id) = refMsgId ∧
      replyResult ((BinaryMsg.reply result refMsgId content.1).encode id) = result ∧
      replyContent ((BinaryMsg.reply result refMsgId content.1).encode id) = content.1 := by
  obtain ⟨content, hcontent⟩ := content
  have hpre : (BinaryMsg.reply result refMsgId content).encode id =
      (ProtocolMsgType.mReply.code :: (msgIdBytes id ++ [if result then 1 else 0])) ++
        msgIdBytes refMsgId ++ (content ++ [0]) := by
    simp [encode_reply]
  have hdrop : ((BinaryMsg.reply result refMsgId content).encode id).drop
      (sBytesInMsgHeader + sBytesInReplyResult + sBytesInMsgId) = content ++ [0] := by
    rw [hpre]
    exact List.drop_left' (by simp [msgIdBytes, sBytesInMsgHeader, sBytesInProtocolMsgType,
      sBytesInMsgId, sBytesInReplyResult])
  have hbyte : ((BinaryMsg.reply result refMsgId content).encode id).getD sBytesInMsgHeader 0 =
      if result then 1 else 0 := by
    cases result <;> rfl
  have hmatch : matchPrintableCharsSpaceLfAndTerminatorRegex (content ++ [0]) = some content :=
    matchOneField_append hcontent.ne_nil hcontent.2 isPrintableCharSpaceLf_zero
  have := hcontent.length_le
  refine ⟨?_, ?_, ?_, replyContent_of_drop hdrop hcontent.2⟩
  · have hresult : isValidReplyMsgResult (if result then 1 else 0) = true := by
      cases result <;> rfl
    rw [isValidReplyMsg, hdrop, hbyte, hmatch, hresult, encode_reply, length_header,
      msgType_header, ProtocolMsgType.ofByte_code_mReply]
    simp only [isValidReplyMsgLength, lengthWithin, List.length_append, List.length_cons,
      List.length_singleton, msgIdBytes, List.length_nil, sBytesInMsgHeader,
      sBytesInProtocolMsgType, sBytesInMsgId, sBytesInReplyResult, sMinVariableDataLength,
      sTerminatorSize, sMsgContentMaxLength, beq_self_eq_true, Option.isSome_some,
      Bool.and_true, Bool.and_eq_true, decide_eq_true_eq]
    omega
  · rw [hpre, getRefMsgId]
    exact readMsgId_append _ _ _
  · rw [replyResult, hbyte]
    cases result <;> rfl

theorem isValidReplyMsg_eq {d : Bytes} (h : isValidReplyMsg d = true) :
    IsContent (replyContent d) ∧
      d = (BinaryMsg.reply (replyResult d) (getRefMsgId d) (replyContent d)).encode (getMsgId d) := by
  simp only [isValidReplyMsg, Bool.and_eq_true, beq_iff_eq, Option.isSome_iff_exists] at h
  obtain ⟨⟨⟨hlength, htype⟩, hresult⟩, content, hmatch⟩ := h
  obtain ⟨hdrop, hne, hclass⟩ := matchOneField_eq_some hmatch
  have hfield := congrArg List.length hdrop
  simp only [List.length_drop, List.length_append, List.length_singleton, sBytesInMsgHeader,
    sBytesInProtocolMsgType, sBytesInMsgId, sBytesInReplyResult] at hfield
  simp only [isValidReplyMsgLength, lengthWithin, sBytesInMsgHeader, sBytesInProtocolMsgType,
    sBytesInMsgId, sBytesInReplyResult, sMinVariableDataLength, sTerminatorSize,
    sMsgContentMaxLength, Bool.and_eq_true, decide_eq_true_eq] at hlength
  have hpos := List.length_pos.mpr hne
  rw [replyContent_of_drop hdrop hclass]
  refine ⟨⟨(isValidMsgContentLength_iff _).mpr (by omega), hclass⟩, ?_⟩
  conv_lhs => rw [eq_reply_header htype (by omega), replyResult_byte hresult, hdrop]
  rw [encode_reply]

end Decode

/-! The checks of `Udp_client` that print what they accept. -/

namespace UdpClient

variable (c : UdpClient)

theorem isValidMsgMsg_encode (id : UInt16) (displayName : DisplayName) (content : Content) :
    c.isValidMsgMsg ((BinaryMsg.msg displayName.1 content.1).encode id) =
      (if id ∈ c.confirmedServerMessages then c
        else c.emit (.output (.incomingMsg displayName.1 content.1)), true) := by
  rw [isValidMsgMsg, matchMsgMsg_encode, getMsgId_encode]

theorem isValidErrMsg_encode (id : UInt16) (displayName : DisplayName) (content : Content) :
    c.isValidErrMsg ((BinaryMsg.err displayName.1 content.1).encode id) =
      (c.emit (.output (.errFromServer displayName.1 content.1)), true) := by
  rw [isValidErrMsg, matchErrMsg_encode]

theorem isValidMsgMsg_accepted {d : Bytes} (h : (c.isValidMsgMsg d).2 = true) :
    ∃ displayName content, IsDisplayName displayName ∧ IsContent content ∧
      d = (BinaryMsg.msg displayName content).encode (getMsgId d) ∧
      c.isValidMsgMsg d = (if getMsgId d ∈ c.confirmedServerMessages then c
        else c.emit (.output (.incomingMsg displayName content)), true) := by
  unfold isValidMsgMsg at h ⊢
  cases hmatch : matchMsgMsg d with
  | none => simp [hmatch] at h
  | some fields =>
      obtain ⟨hdisplayName, hcontent, hd⟩ := matchMsgMsg_eq_some hmatch
      exact ⟨fields.1, fields.2, hdisplayName, hcontent, hd, rfl⟩

theorem isValidErrMsg_accepted {d : Bytes} (h : (c.isValidErrMsg d).2 = true) :
    ∃ displayName content, IsDisplayName displayName ∧ IsContent content ∧
      d = (BinaryMsg.err displayName content).encode (getMsgId d) ∧
      c.isValidErrMsg d = (c.emit (.output (.errFromServer displayName content)), true) := by
  unfold isValidErrMsg at h ⊢
  cases hmatch : matchErrMsg d with
  | none => simp [hmatch] at h
  | some fields =>
      obtain ⟨hdisplayName, hcontent, hd⟩ := matchErrMsg_eq_some hmatch
      exact ⟨fields.1, fields.2, hdisplayName, hcontent, hd, rfl⟩

end UdpClient

/-- The encoders of `Udp_client` produce the layout; its decoders accept every
well-formed encoding and read back exactly its fields; and every datagram they
accept is the encoding of the fields they read. -/
theorem binary_codec_roundtrip :
    (∀ (c : UdpClient) (k : UInt16),
      (c.sendConfirmMsg k).log = c.log ++ [.sendTo c.serverAddr (BinaryMsg.confirm.encode k)]) ∧
    (∀ (c : UdpClient) (username secret : Bytes),
      (c.buildAuthMsg username secret).msgToServer =
        (BinaryMsg.auth username c.userDisplayName secret).encode c.msgToServerId) ∧
    (∀ (c : UdpClient) (channelId : Bytes),
      (c.buildJoinMsg channelId).msgToServer =
        (BinaryMsg.join channelId c.userDisplayName).encode c.msgToServerId) ∧
    (∀ (c : UdpClient) (content : Bytes),
      (c.buildMsgMsg content).msgToServer =
        (BinaryMsg.msg c.userDisplayName content).encode c.msgToServerId) ∧
    (∀ (c : UdpClient) (content : Bytes),
      (c.buildErrMsg content).msgToServer =
        (BinaryMsg.err c.userDisplayName content).encode (c.buildErrMsg content).msgToServerId) ∧
    (∀ c : UdpClient,
      c.buildByeMsg.msgToServer =
        (BinaryMsg.bye c.userDisplayName).encode c.buildByeMsg.msgToServerId) ∧
    (∀ k : UInt16,
      isValidConfirmMsg (BinaryMsg.confirm.encode k) = true ∧
        getMsgId (BinaryMsg.confirm.encode k) = k) ∧
    (∀ (c : UdpClient) (k : UInt16) (displayName : DisplayName) (content : Content),
      c.isValidMsgMsg ((BinaryMsg.msg displayName.1 content.1).encode k) =
          (if k ∈ c.confirmedServerMessages then c
            else c.emit (.output (.incomingMsg displayName.1 content.1)), true) ∧
        getMsgId ((BinaryMsg.msg displayName.1 content.1).encode k) = k) ∧
    (∀ (c : UdpClient) (k : UInt16) (displayName : DisplayName) (content : Content),
      c.isValidErrMsg ((BinaryMsg.err displayName.1 content.1).encode k) =
          (c.emit (.output (.errFromServer displayName.1 content.1)), true) ∧
        getMsgId ((BinaryMsg.err displayName.1 content.1).encode k) = k) ∧
    (∀ (k : UInt16) (displayName : DisplayName),
      isValidByeMsg ((BinaryMsg.bye displayName.1).encode k) = true ∧
        matchByeMsgRegex (((BinaryMsg.bye displayName.1).encode k).drop sBytesInMsgHeader) =
          some displayName.1 ∧
        getMsgId ((BinaryMsg.bye displayName.1).encode k) = k) ∧
    (∀ (k : UInt16) (result : Bool) (refMsgId : UInt16) (content : Content),
      isValidReplyMsg ((BinaryMsg.reply result refMsgId content.1).encode k) = true ∧
        getMsgId ((BinaryMsg.reply result refMsgId content.1).encode k) = k ∧
        getRefMsgId ((BinaryMsg.reply result refMsgId content.1).encode k) = refMsgId ∧
        replyResult ((BinaryMsg.reply result refMsgId content.1).encode k) = result ∧
        replyContent ((BinaryMsg.reply result refMsgId content.1).encode k) = content.1) ∧
    (∀ d : Bytes, isValidConfirmMsg d = true → d = BinaryMsg.confirm.encode (getMsgId d)) ∧
    (∀ (c : UdpClient) (d : Bytes), (c.isValidMsgMsg d).2 = true →
      ∃ displayName content, IsDisplayName displayName ∧ IsContent content ∧
        d = (BinaryMsg.msg displayName content).encode (getMsgId d) ∧
        c.isValidMsgMsg d = (if getMsgId d ∈ c.confirmedServerMessages then c
          else c.emit (.output (.incomingMsg displayName content)), true)) ∧
    (∀ (c : UdpClient) (d : Bytes), (c.isValidErrMsg d).2 = true →
      ∃ displayName content, IsDisplayName displayName ∧ IsContent content ∧
        d = (BinaryMsg.err displayName content).encode (getMsgId d) ∧
        c.isValidErrMsg d = (c.emit (.output (.errFromServer displayName content)), true)) ∧
    (∀ d : Bytes, isValidByeMsg d = true →
      ∃ displayName, IsDisplayName displayName ∧
        matchByeMsgRegex (d.drop sBytesInMsgHeader) = some displayName ∧
        d = (BinaryMsg.bye displayName).encode (getMsgId d)) ∧
    (∀ d : Bytes, isValidReplyMsg d = true →
      IsContent (replyContent d) ∧
        d = (BinaryMsg.reply (replyResult d) (getRefMsgId d) (replyContent d)).encode (getMsgId d)) :=
  ⟨UdpClient.sendConfirmMsg_encode, UdpClient.buildAuthMsg_encode, UdpClient.buildJoinMsg_encode,
    UdpClient.buildMsgMsg_encode, UdpClient.buildErrMsg_encode, UdpClient.buildByeMsg_encode,
    fun k => ⟨isValidConfirmMsg_encode k, getMsgId_encode k _⟩,
    fun c k displayName content =>
      ⟨c.isValidMsgMsg_encode k displayName content, getMsgId_encode k _⟩,
    fun c k displayName content =>
      ⟨c.isValidErrMsg_encode k displayName content, getMsgId_encode k _⟩,
    fun k displayName => ⟨(isValidByeMsg_encode k displayName).1,
      (isValidByeMsg_encode k displayName).2, getMsgId_encode k _⟩,
    fun k result refMsgId content => by
      obtain ⟨hvalid, href, hresult, hcontent⟩ := isValidReplyMsg_encode k result refMsgId content
      exact ⟨hvalid, getMsgId_encode k _, href, hresult, hcontent⟩,
    fun _ => isValidConfirmMsg_eq, fun c _ => c.isValidMsgMsg_accepted,
    fun c _ => c.isValidErrMsg_accepted, fun _ => isValidByeMsg_eq, fun _ => isValidReplyMsg_eq⟩

/-! The size filter of `processSocketEvent` against the decoders' length windows. -/

theorem sMaxMsgSize_eq : sMaxMsgSize = 60007 := rfl

theorem length_encode_msg (id : UInt16) (displayName content : Bytes) :
    ((BinaryMsg.msg displayName content).encode id).length = displayName.length + content.length + 5 := by
  simp only [encode_msg, List.length_cons, List.length_append, msgIdBytes, List.length_singleton,
    List.length_nil]
  omega

theorem isValidConfirmMsg_type {d : Bytes} (h : isValidConfirmMsg d = true) :
    msgType d = .mConfirm := by
  simp only [isValidConfirmMsg, Bool.and_eq_true, beq_iff_eq] at h
  exact h.1

theorem isValidConfirmMsg_fits {d : Bytes} (h : isValidConfirmMsg d = true) :
    d.length ≤ sMaxMsgSize := by
  simp only [isValidConfirmMsg, isValidConfirmMsgLength, Bool.and_eq_true, beq_iff_eq] at h
  rw [h.2]
  decide

theorem isValidReplyMsg_type {d : Bytes} (h : isValidReplyMsg d = true) : msgType d = .mReply := by
  simp only [isValidReplyMsg, Bool.and_eq_true, beq_iff_eq] at h
  exact h.1.1.2

/-- The longest REPLY is what `s_MAX_MSG_SIZE` counts. -/
theorem isValidReplyMsg_fits {d : Bytes} (h : isValidReplyMsg d = true) : d.length ≤ sMaxMsgSize := by
  simp only [isValidReplyMsg, isValidReplyMsgLength, lengthWithin, Bool.and_eq_true,
    decide_eq_true_eq] at h
  exact h.1.1.1.2

namespace UdpClient

variable (args : Args) (c : UdpClient) (src : SockAddr)

/-- A datagram that fits `s_MAX_MSG_SIZE` reaches the dispatch whole. -/
theorem processSocketEvent_of_fits {datagram : Bytes} (hfits : datagram.length ≤ sMaxMsgSize) :
    c.processSocketEvent args src datagram = c.processMessageFromServer args datagram src := by
  simp only [processSocketEvent, List.take_of_length_le (Nat.le_succ_of_le hfits)]
  exact if_neg (Nat.not_lt.mpr hfits)

/-- A longer one is answered with an ERR, whatever it holds. -/
theorem processSocketEvent_of_long {datagram : Bytes} (hlong : sMaxMsgSize < datagram.length) :
    c.processSocketEvent args src datagram =
      (c.sendErrMsg args "ERROR: too long message from server.", .proceed) := by
  simp only [processSocketEvent, List.length_take_of_le hlong]
  exact if_pos (Nat.lt_succ_self _)

/-- A MSG of well-formed fields that are together longer than 60002 bytes:
`isValidMsgMsg` accepts it, but the filter answers it with an ERR first. -/
theorem processSocketEvent_msg_of_long (id : UInt16) (displayName : DisplayName) (content : Content)
    (hlong : sMaxMsgSize < displayName.1.length + content.1.length + 5) :
    (c.isValidMsgMsg ((BinaryMsg.msg displayName.1 content.1).encode id)).2 = true ∧
      c.processSocketEvent args src ((BinaryMsg.msg displayName.1 content.1).encode id) =
        (c.sendErrMsg args "ERROR: too long message from server.", .proceed) := by
  rw [isValidMsgMsg_encode]
  exact ⟨rfl, processSocketEvent_of_long args c src (by rwa [length_encode_msg])⟩

end UdpClient

/-- What holds of every handler a wake runs holds of the wake: a datagram that
fits reaches `processMessageFromServer` whole, a longer one and a failed
`recvfrom` are answered with an ERR. -/
theorem step_of_handlers {args : Args} {c : UdpClient} {e : Event} {P : UdpClient × Verdict → Prop}
    (hstdin : ∀ event, e = .stdin event → P (c.processStdinEvent args event))
    (htimer : e = .timerExpired → P ({ c with timer := none }.processTimerEvent args))
    (hsigint : e = .sigint → P (c.sigintHandler args, .proceed))
    (hdatagram : ∀ src d, e = .datagram src d → d.length ≤ sMaxMsgSize →
      P (c.processMessageFromServer args d src))
    (herr : ∀ errMsg, P (c.sendErrMsg args errMsg, .proceed)) : P (step args c e) := by
  cases e with
  | stdin event => exact hstdin event rfl
  | timerExpired => exact htimer rfl
  | sigint => exact hsigint rfl
  | datagram src bytes =>
      by_cases hfits : bytes.length ≤ sMaxMsgSize
      · rw [step, UdpClient.processSocketEvent_of_fits args c src hfits]
        exact hdatagram src bytes rfl hfits
      · rw [step, UdpClient.processSocketEvent_of_long args c src (Nat.lt_of_not_le hfits)]
        exact herr _
  | recvFailed => exact herr _

/-- The MSG with a display name of 20 bytes and 60000 bytes of content, the
longest that `isValidMsgMsg` allows. -/
def longestMsg : Bytes :=
  (BinaryMsg.msg (List.replicate 20 0x61) (List.replicate 60000 0x62)).encode 0

theorem longestMsg_rejected_as_too_long :
    sMaxMsgSize < longestMsg.length ∧
      ∀ (args : Args) (c : UdpClient) (src : SockAddr),
        (c.isValidMsgMsg longestMsg).2 = true ∧
          c.processSocketEvent args src longestMsg =
            (c.sendErrMsg args "ERROR: too long message from server.", .proceed) := by
  have hdisplayName : IsDisplayName (List.replicate 20 0x61) :=
    isDisplayName_replicate (by decide) (by decide)
  have hcontent : IsContent (List.replicate 60000 0x62) := isContent_replicate (by decide) (by decide)
  have hlength : longestMsg.length = 60025 := by
    rw [longestMsg, length_encode_msg, List.length_replicate, List.length_replicate]
  have hlong : sMaxMsgSize < longestMsg.length := by rw [hlength, sMaxMsgSize_eq]; decide
  refine ⟨hlong, fun args c src => ?_⟩
  exact c.processSocketEvent_msg_of_long args src 0 ⟨_, hdisplayName⟩ ⟨_, hcontent⟩
    (by rwa [← length_encode_msg 0])

end IpkChat.Udp
