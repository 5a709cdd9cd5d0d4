import IpkChat.Tcp.Client

namespace IpkChat.Tcp

/-! The text grammar as tokens, and that `Tcp_client` writes its lines and reads them back. -/

/-- A piece of a line: a keyword, matched in any ASCII case, or a field. -/
inductive Token
  | keyword (bytes : Bytes)
  | field (bytes : Bytes)

def Token.bytes : Token → Bytes
  | .keyword bytes => bytes
  | .field bytes => bytes

/-- `line` is the tokens in order, each keyword in any ASCII case. -/
inductive Spells : List Token → Bytes → Prop
  | nil : Spells [] []
  | keyword {keyword spelling : Bytes} {tokens : List Token} {line : Bytes} :
      eqIgnoreCase spelling keyword = true → Spells tokens line →
        Spells (.keyword keyword :: tokens) (spelling ++ line)
  | field {field : Bytes} {tokens : List Token} {line : Bytes} :
      Spells tokens line → Spells (.field field :: tokens) (field ++ line)

/-- A message of the text variant with its fields. -/
inductive TextMsg
  | auth (username displayName secret : Bytes)
  | join (channelId displayName : Bytes)
  | msg (displayName content : Bytes)
  | err (displayName content : Bytes)
  | bye (displayName : Bytes)
  | reply (isPositive : Bool) (content : Bytes)

/-- The grammar of each message, one field between single spaces and keywords. -/
def TextMsg.tokens : TextMsg → List Token
  | auth username displayName secret =>
      [.keyword (ascii "AUTH "), .field username, .keyword (ascii " AS "), .field displayName,
        .keyword (ascii " USING "), .field secret, .keyword sEndOfMessage]
  | join channelId displayName =>
      [.keyword (ascii "JOIN "), .field channelId, .keyword (ascii " AS "), .field displayName,
        .keyword sEndOfMessage]
  | msg displayName content =>
      [.keyword (ascii "MSG FROM "), .field displayName, .keyword (ascii " IS "), .field content,
        .keyword sEndOfMessage]
  | err displayName content =>
      [.keyword (ascii "ERR FROM "), .field displayName, .keyword (ascii " IS "), .field content,
        .keyword sEndOfMessage]
  | bye displayName => [.keyword (ascii "BYE FROM "), .field displayName, .keyword sEndOfMessage]
  | reply isPositive content =>
      [.keyword (ascii "REPLY "), .keyword (ascii (if isPositive then "OK" else "NOK")),
        .keyword (ascii " IS "), .field content, .keyword sEndOfMessage]

/-- The line with upper-case keywords. -/
def TextMsg.encode (m : TextMsg) : Bytes := (m.tokens.map Token.bytes).flatten

/-- Keywords match regardless of case only, so a spelling is as long as the
message it spells. -/
theorem Spells.length_eq {tokens : List Token} {line : Bytes} (h : Spells tokens line) :
    line.length = (tokens.map Token.bytes).flatten.length := by
  induction h with
  | nil => rfl
  | keyword hcase _ ih => simp [length_eq_of_eqIgnoreCase hcase, ih, Token.bytes]
  | field _ ih => simp [ih, Token.bytes]

theorem Spells.length_eq_encode {m : TextMsg} {line : Bytes} (h : Spells m.tokens line) :
    line.length = m.encode.length :=
  h.length_eq

/-! The builders. -/

namespace TcpClient

variable (c : TcpClient)

theorem buildAuthMsg_encode (username secret : Bytes) :
    (c.buildAuthMsg username secret).msgToServer =
      (TextMsg.auth username c.userDisplayName secret).encode := by
  simp [buildAuthMsg, TextMsg.encode, TextMsg.tokens, Token.bytes]

theorem buildJoinMsg_encode (channelId : Bytes) :
    (c.buildJoinMsg channelId).msgToServer = (TextMsg.join channelId c.userDisplayName).encode := by
  simp [buildJoinMsg, TextMsg.encode, TextMsg.tokens, Token.bytes]

theorem buildMsgMsg_encode (userMsg : Bytes) :
    (c.buildMsgMsg userMsg).msgToServer = (TextMsg.msg c.userDisplayName userMsg).encode := by
  simp [buildMsgMsg, TextMsg.encode, TextMsg.tokens, Token.bytes]

theorem buildErrMsg_encode (content : Bytes) :
    (c.buildErrMsg content).msgToServer = (TextMsg.err c.userDisplayName content).encode := by
  simp [buildErrMsg, TextMsg.encode, TextMsg.tokens, Token.bytes]

theorem buildByeMsg_encode :
    c.buildByeMsg.msgToServer = (TextMsg.bye c.userDisplayName).encode := by
  simp [buildByeMsg, TextMsg.encode, TextMsg.tokens, Token.bytes]

end TcpClient

/-! The regexes on the lines. -/

theorem Spells.keyword_end {keyword spelling : Bytes} (h : eqIgnoreCase spelling keyword = true) :
    Spells [.keyword keyword] spelling := by
  simpa using Spells.keyword h .nil

theorem ascii_is : ascii " IS " = [32, 73, 83, 32] := rfl

/-- A display name stops at the space of `" IS "`, a content at the `\r` of the
end of the message. -/
theorem takeRun_displayName {displayName : Bytes} (h : IsDisplayName displayName) (rest : Bytes) :
    takeRun isPrintableChar (displayName ++ (ascii " IS " ++ rest)) =
      some (displayName, ascii " IS " ++ rest) :=
  takeRun_append h.ne_nil h.2 (by simp [ascii_is]; rfl)

theorem takeRun_content {content : Bytes} (h : IsContent content) :
    takeRun isPrintableCharSpaceLf (content ++ sEndOfMessage) = some (content, sEndOfMessage) :=
  takeRun_append h.ne_nil h.2 (by simp [sEndOfMessage_eq]; rfl)

/-- The groups of a line with well-formed fields are its fields, whatever the
content holds. -/
theorem matchFromIsRegex_fields (keyword : Bytes) {displayName content : Bytes}
    (hdisplayName : IsDisplayName displayName) (hcontent : IsContent content) :
    matchFromIsRegex keyword (keyword ++ displayName ++ ascii " IS " ++ content ++ sEndOfMessage) =
      some (displayName, content) := by
  simp only [matchFromIsRegex, List.append_assoc, matchKeyword_append, Option.bind_eq_bind,
    Option.some_bind, takeRun_displayName hdisplayName, takeRun_content hcontent, if_true]

theorem matchFromIsRegex_eq_some {keyword s displayName content : Bytes}
    (h : matchFromIsRegex keyword s = some (displayName, content)) :
    (displayName ≠ [] ∧ ∀ x ∈ displayName, isPrintableChar x) ∧
      (content ≠ [] ∧ ∀ x ∈ content, isPrintableCharSpaceLf x) ∧
      Spells [.keyword keyword, .field displayName, .keyword (ascii " IS "), .field content,
        .keyword sEndOfMessage] s := by
  simp only [matchFromIsRegex, Option.bind_eq_bind, Option.bind_eq_some] at h
  obtain ⟨rest₁, h₁, ⟨displayName', rest₂⟩, h₂, rest₃, h₃, ⟨content', rest₄⟩, h₄, h₅⟩ := h
  split_ifs at h₅ with hend
  simp only [Option.some.injEq, Prod.mk.injEq] at h₅
  obtain ⟨rfl, rfl⟩ := h₅
  obtain ⟨spelling, hspelling, rfl⟩ := matchKeyword_eq_some.mp h₁
  obtain ⟨rfl, hdisplayName⟩ := takeRun_eq_some h₂
  obtain ⟨isSpelling, hisSpelling, rfl⟩ := matchKeyword_eq_some.mp h₃
  obtain ⟨rfl, hcontent⟩ := takeRun_eq_some h₄
  subst hend
  exact ⟨hdisplayName, hcontent,
    .keyword hspelling (.field (.keyword hisSpelling (.field (.keyword_end (eqIgnoreCase_refl _)))))⟩

theorem matchByeMsgRegex_field {displayName : Bytes} (h : IsDisplayName displayName) :
    matchByeMsgRegex (ascii "BYE FROM " ++ displayName ++ sEndOfMessage) = some displayName := by
  have hrun : takeRun isPrintableChar (displayName ++ sEndOfMessage) =
      some (displayName, sEndOfMessage) :=
    takeRun_append h.ne_nil h.2 (by simp [sEndOfMessage_eq]; rfl)
  simp only [matchByeMsgRegex, List.append_assoc, matchKeyword_append, Option.bind_eq_bind,
    Option.some_bind, hrun, if_true]

theorem matchByeMsgRegex_eq_some {s displayName : Bytes}
    (h : matchByeMsgRegex s = some displayName) :
    (displayName ≠ [] ∧ ∀ x ∈ displayName, isPrintableChar x) ∧
      Spells (TextMsg.bye displayName).tokens s := by
  simp only [matchByeMsgRegex, Option.bind_eq_bind, Option.bind_eq_some] at h
  obtain ⟨rest₁, h₁, ⟨displayName', rest₂⟩, h₂, h₃⟩ := h
  split_ifs at h₃ with hend
  cases h₃
  obtain ⟨spelling, hspelling, rfl⟩ := matchKeyword_eq_some.mp h₁
  obtain ⟨rfl, hdisplayName⟩ := takeRun_eq_some h₂
  subst hend
  exact ⟨hdisplayName, .keyword hspelling (.field (.keyword_end (eqIgnoreCase_refl _)))⟩

/-- The result group spells `OK` exactly when `strcasecmp` finds it equal to
`"OK"`, and `NOK` otherwise. -/
theorem matchReplyResult_eq_some {s result rest : Bytes}
    (h : matchReplyResult s = some (result, rest)) :
    s = result ++ rest ∧
      eqIgnoreCase result (ascii (if eqIgnoreCase result (ascii "OK") then "OK" else "NOK")) =
        true := by
  unfold matchReplyResult at h
  cases hok : matchKeyword (ascii "OK") s with
  | some rest' =>
      simp only [hok, Option.some.injEq, Prod.mk.injEq] at h
      obtain ⟨rfl, rfl⟩ := h
      obtain ⟨spelling, hspelling, rfl⟩ := matchKeyword_eq_some.mp hok
      have hlen : spelling.length = 2 := length_eq_of_eqIgnoreCase hspelling
      rw [List.take_left' hlen, if_pos hspelling]
      exact ⟨rfl, hspelling⟩
  | none =>
      cases hnok : matchKeyword (ascii "NOK") s with
      | none => simp [hok, hnok] at h
      | some rest' =>
          simp only [hok, hnok, Option.some.injEq, Prod.mk.injEq] at h
          obtain ⟨rfl, rfl⟩ := h
          obtain ⟨spelling, hspelling, rfl⟩ := matchKeyword_eq_some.mp hnok
          have hlen : spelling.length = 3 := length_eq_of_eqIgnoreCase hspelling
          have hnotOk : eqIgnoreCase spelling (ascii "OK") = false := Bool.eq_false_iff.mpr fun hok' =>
            absurd (hlen.symm.trans (length_eq_of_eqIgnoreCase hok')) (by decide)
          rw [List.take_left' hlen, if_neg (by simp [hnotOk])]
          exact ⟨rfl, hspelling⟩

theorem matchReplyMsgRegex_eq_some {s result content : Bytes}
    (h : matchReplyMsgRegex s = some (result, content)) :
    (content ≠ [] ∧ ∀ x ∈ content, isPrintableCharSpaceLf x) ∧
      Spells (TextMsg.reply (eqIgnoreCase result (ascii "OK")) content).tokens s := by
  simp only [matchReplyMsgRegex, Option.bind_eq_bind, Option.bind_eq_some] at h
  obtain ⟨rest₁, h₁, ⟨result', rest₂⟩, h₂, rest₃, h₃, ⟨content', rest₄⟩, h₄, h₅⟩ := h
  split_ifs at h₅ with hend
  simp only [Option.some.injEq, Prod.mk.injEq] at h₅
  obtain ⟨rfl, rfl⟩ := h₅
  obtain ⟨spelling, hspelling, rfl⟩ := matchKeyword_eq_some.mp h₁
  obtain ⟨rfl, hresult⟩ := matchReplyResult_eq_some h₂
  obtain ⟨isSpelling, hisSpelling, rfl⟩ := matchKeyword_eq_some.mp h₃
  obtain ⟨rfl, hcontent⟩ := takeRun_eq_some h₄
  subst hend
  exact ⟨hcontent, .keyword hspelling (.keyword hresult (.keyword hisSpelling
    (.field (.keyword_end (eqIgnoreCase_refl _)))))⟩

theorem TextMsg.encode_msg (displayName content : Bytes) :
    (TextMsg.msg displayName content).encode =
      ascii "MSG FROM " ++ displayName ++ ascii " IS " ++ content ++ sEndOfMessage := by
  simp [TextMsg.encode, TextMsg.tokens, Token.bytes]

theorem TextMsg.encode_err (displayName content : Bytes) :
    (TextMsg.err displayName content).encode =
      ascii "ERR FROM " ++ displayName ++ ascii " IS " ++ content ++ sEndOfMessage := by
  simp [TextMsg.encode, TextMsg.tokens, Token.bytes]

theorem TextMsg.encode_bye (displayName : Bytes) :
    (TextMsg.bye displayName).encode = ascii "BYE FROM " ++ displayName ++ sEndOfMessage := by
  simp [TextMsg.encode, TextMsg.tokens, Token.bytes]

theorem TextMsg.encode_reply (isPositive : Bool) (content : Bytes) :
    (TextMsg.reply isPositive content).encode =
      ascii "REPLY " ++ ascii (if isPositive then "OK" else "NOK") ++ ascii " IS " ++ content ++
        sEndOfMessage := by
  simp [TextMsg.encode, TextMsg.tokens, Token.bytes]

/-- The result keyword of an encoded REPLY is read back as its result. -/
theorem matchReplyResult_encode (isPositive : Bool) (rest : Bytes) :
    matchReplyResult (ascii (if isPositive then "OK" else "NOK") ++ rest) =
      some (ascii (if isPositive then "OK" else "NOK"), rest) := by
  cases isPositive
  · have htake : (ascii "NOK" ++ rest).take (ascii "OK").length = ascii "NO" := by
      rw [List.take_append_of_le_length (by decide)]
      rfl
    have hok : matchKeyword (ascii "OK") (ascii "NOK" ++ rest) = none := by
      rw [matchKeyword, htake, if_neg (by decide)]
    simp only [matchReplyResult, if_false, hok, matchKeyword_append]
    rfl
  · simp only [matchReplyResult, if_true, matchKeyword_append]
    rfl

theorem matchReplyMsgRegex_fields (isPositive : Bool) {content : Bytes} (hcontent : IsContent content) :
    matchReplyMsgRegex (TextMsg.reply isPositive content).encode =
      some (ascii (if isPositive then "OK" else "NOK"), content) := by
  simp only [TextMsg.encode_reply, matchReplyMsgRegex, List.append_assoc, matchKeyword_append,
    Option.bind_eq_bind, Option.some_bind, matchReplyResult_encode, takeRun_content hcontent,
    if_true]

theorem eqIgnoreCase_ok (isPositive : Bool) :
    eqIgnoreCase (ascii (if isPositive then "OK" else "NOK")) (ascii "OK") = isPositive := by
  cases isPositive <;> rfl

/-! The handlers. -/

namespace TcpClient

section FromIs

variable {keyword : Bytes} {display : Bytes → Bytes → Output} {malformed : String} {c : TcpClient}

theorem processServerFromIsMsg_fields {displayName content : Bytes}
    (hdisplayName : IsDisplayName displayName) (hcontent : IsContent content) :
    processServerFromIsMsg keyword display malformed c
        (keyword ++ displayName ++ ascii " IS " ++ content ++ sEndOfMessage) =
      (c.emit (.output (display displayName content)), .proceed) := by
  simp only [processServerFromIsMsg, matchFromIsMsg, matchFromIsRegex_fields keyword hdisplayName
    hcontent, hdisplayName.1, hcontent.1, Bool.and_self, if_true]

/-- What a handler of MSG or ERR lets through is a line of its keyword with
well-formed fields, and it shows exactly those fields. -/
theorem processServerFromIsMsg_proceed {frame : Bytes}
    (h : (processServerFromIsMsg keyword display malformed c frame).2 = .proceed) :
    ∃ displayName content, IsDisplayName displayName ∧ IsContent content ∧
      Spells [.keyword keyword, .field displayName, .keyword (ascii " IS "), .field content,
        .keyword sEndOfMessage] frame ∧
      processServerFromIsMsg keyword display malformed c frame =
        (c.emit (.output (display displayName content)), .proceed) := by
  unfold processServerFromIsMsg matchFromIsMsg at h ⊢
  cases hmatch : matchFromIsRegex keyword frame with
  | none => simp [hmatch] at h
  | some fields =>
      obtain ⟨displayName, content⟩ := fields
      simp only [hmatch] at h ⊢
      split_ifs at h ⊢ with hlengths
      · simp only [Bool.and_eq_true] at hlengths
        obtain ⟨hdisplayName, hcontent, hspells⟩ := matchFromIsRegex_eq_some hmatch
        exact ⟨displayName, content, ⟨hlengths.1, hdisplayName.2⟩, ⟨hlengths.2, hcontent.2⟩,
          hspells, rfl⟩
      · simp at h

end FromIs

end TcpClient

namespace TcpClient

variable (c : TcpClient)

theorem processServerMsgMsg_encode (displayName : DisplayName) (content : Content) :
    c.processServerMsgMsg (TextMsg.msg displayName.1 content.1).encode =
      (c.emit (.output (.incomingMsg displayName.1 content.1)), .proceed) := by
  rw [TextMsg.encode_msg]
  exact processServerFromIsMsg_fields displayName.2 content.2

theorem processServerErrMsg_encode (displayName : DisplayName) (content : Content) :
    c.processServerErrMsg (TextMsg.err displayName.1 content.1).encode =
      (c.emit (.output (.errFromServer displayName.1 content.1)), .proceed) := by
  rw [TextMsg.encode_err]
  exact processServerFromIsMsg_fields displayName.2 content.2

theorem processServerByeMsg_encode (displayName : DisplayName) :
    c.processServerByeMsg (TextMsg.bye displayName.1).encode = (c, .proceed) ∧
      matchByeMsgRegex (TextMsg.bye displayName.1).encode = some displayName.1 := by
  have hmatch := matchByeMsgRegex_field displayName.2
  rw [← TextMsg.encode_bye] at hmatch
  simp only [processServerByeMsg, hmatch, displayName.2.1, if_true, and_self]

/-- A REPLY the client waits for in `S_AUTH` or `S_JOIN`, with a content of
valid length: the timer is stopped, the reply shown, stdin registered again, and
`S_JOIN`, or `S_AUTH` on a positive result, left for `S_OPEN`. -/
theorem processServerReplyMsg_of_match {c : TcpClient} {frame result content : Bytes}
    (hstate : c.currentState = .sAuth ∨ c.currentState = .sJoin)
    (hwaiting : c.isWaitingForReply = true) (hmatch : matchReplyMsgRegex frame = some (result, content))
    (hlength : isValidMsgContentLength content.length = true) :
    c.processServerReplyMsg frame =
      ({ c with
          currentState :=
            if c.currentState = .sJoin ∨ eqIgnoreCase result (ascii "OK") = true then .sOpen
            else c.currentState
          isWaitingForReply := false
          timer := none
          stdinRegistered := true
          log := c.log ++ [.output (.incomingReply (eqIgnoreCase result (ascii "OK")) content)] },
        .proceed) := by
  simp only [processServerReplyMsg, if_neg (or_iff_not_and_not.mp hstate), hwaiting, if_true, hmatch,
    hlength, stopTimer, emit]
  split_ifs <;> rfl

/-- What a REPLY does: it is answered with an ERR that ends the session, or it
is the one the client waits for in `S_AUTH` or `S_JOIN`, with a content of valid
length, and `processServerReplyMsg_of_match` says what follows. -/
theorem processServerReplyMsg_cases (frame : Bytes) :
    (∃ errMsg, c.processServerReplyMsg frame = c.sendErrMsgAndTerminate errMsg) ∨
      ∃ result content, (c.currentState = .sAuth ∨ c.currentState = .sJoin) ∧
        c.isWaitingForReply = true ∧ matchReplyMsgRegex frame = some (result, content) ∧
        isValidMsgContentLength content.length = true := by
  unfold processServerReplyMsg
  split_ifs with hstate hwaiting
  · exact .inl ⟨_, rfl⟩
  · split
    next result content hmatch =>
      split_ifs with hlength
      · exact .inr ⟨result, content, or_iff_not_and_not.mpr hstate, hwaiting, hmatch, hlength⟩
      · exact .inl ⟨_, rfl⟩
    next => exact .inl ⟨_, rfl⟩
  · exact .inl ⟨_, rfl⟩

/-- A REPLY that comes while none is awaited ends the session. -/
theorem processServerReplyMsg_raise_of_not_waiting {c : TcpClient}
    (hwaiting : c.isWaitingForReply = false) (frame : Bytes) :
    ∃ msg, (c.processServerReplyMsg frame).2 = .raise msg := by
  rcases c.processServerReplyMsg_cases frame with ⟨errMsg, herr⟩ | ⟨-, -, -, hwaiting', -⟩
  · exact ⟨errMsg, by rw [herr]; rfl⟩
  · exact absurd (hwaiting.symm.trans hwaiting') Bool.false_ne_true

theorem processServerMsgMsg_proceed {frame : Bytes} (h : (c.processServerMsgMsg frame).2 = .proceed) :
    ∃ displayName content, IsDisplayName displayName ∧ IsContent content ∧
      Spells (TextMsg.msg displayName content).tokens frame ∧
      c.processServerMsgMsg frame = (c.emit (.output (.incomingMsg displayName content)), .proceed) :=
  processServerFromIsMsg_proceed h

theorem processServerErrMsg_proceed {frame : Bytes} (h : (c.processServerErrMsg frame).2 = .proceed) :
    ∃ displayName content, IsDisplayName displayName ∧ IsContent content ∧
      Spells (TextMsg.err displayName content).tokens frame ∧
      c.processServerErrMsg frame = (c.emit (.output (.errFromServer displayName content)), .proceed) :=
  processServerFromIsMsg_proceed h

theorem processServerByeMsg_proceed {frame : Bytes} (h : (c.processServerByeMsg frame).2 = .proceed) :
    ∃ displayName, IsDisplayName displayName ∧ matchByeMsgRegex frame = some displayName ∧
      Spells (TextMsg.bye displayName).tokens frame ∧ c.processServerByeMsg frame = (c, .proceed) := by
  unfold processServerByeMsg at h ⊢
  cases hmatch : matchByeMsgRegex frame with
  | none => simp [hmatch] at h
  | some displayName =>
      simp only [hmatch] at h ⊢
      split_ifs at h ⊢ with hlength
      · obtain ⟨hdisplayName, hspells⟩ := matchByeMsgRegex_eq_some hmatch
        exact ⟨displayName, ⟨hlength, hdisplayName.2⟩, rfl, hspells, rfl⟩
      · simp at h

theorem processServerReplyMsg_proceed {frame : Bytes}
    (h : (c.processServerReplyMsg frame).2 = .proceed) :
    ∃ isPositive content, IsContent content ∧ Spells (TextMsg.reply isPositive content).tokens frame ∧
      (c.processServerReplyMsg frame).1.log = c.log ++ [.output (.incomingReply isPositive content)] := by
  rcases c.processServerReplyMsg_cases frame with
    ⟨errMsg, herr⟩ | ⟨result, content, hstate, hwaiting, hmatch, hlength⟩
  · rw [herr, sendErrMsgAndTerminate_verdict] at h
    cases h
  · obtain ⟨hcontent, hspells⟩ := matchReplyMsgRegex_eq_some hmatch
    rw [processServerReplyMsg_of_match hstate hwaiting hmatch hlength]
    exact ⟨_, content, ⟨hlength, hcontent.2⟩, hspells, rfl⟩

end TcpClient

/-- The builders write the grammar's lines; the handlers read back the fields of
every well-formed MSG, ERR and BYE, and every line they accept spells the message
of the fields read, a REPLY positive exactly when its keyword is `OK`. -/
theorem text_codec_roundtrip :
    (∀ (c : TcpClient) (username secret : Bytes),
      (c.buildAuthMsg username secret).msgToServer =
        (TextMsg.auth username c.userDisplayName secret).encode) ∧
    (∀ (c : TcpClient) (channelId : Bytes),
      (c.buildJoinMsg channelId).msgToServer = (TextMsg.join channelId c.userDisplayName).encode) ∧
    (∀ (c : TcpClient) (userMsg : Bytes),
      (c.buildMsgMsg userMsg).msgToServer = (TextMsg.msg c.userDisplayName userMsg).encode) ∧
    (∀ (c : TcpClient) (content : Bytes),
      (c.buildErrMsg content).msgToServer = (TextMsg.err c.userDisplayName content).encode) ∧
    (∀ c : TcpClient, c.buildByeMsg.msgToServer = (TextMsg.bye c.userDisplayName).encode) ∧
    (∀ (c : TcpClient) (displayName : DisplayName) (content : Content),
      c.processServerMsgMsg (TextMsg.msg displayName.1 content.1).encode =
        (c.emit (.output (.incomingMsg displayName.1 content.1)), .proceed)) ∧
    (∀ (c : TcpClient) (displayName : DisplayName) (content : Content),
      c.processServerErrMsg (TextMsg.err displayName.1 content.1).encode =
        (c.emit (.output (.errFromServer displayName.1 content.1)), .proceed)) ∧
    (∀ (c : TcpClient) (displayName : DisplayName),
      c.processServerByeMsg (TextMsg.bye displayName.1).encode = (c, .proceed) ∧
        matchByeMsgRegex (TextMsg.bye displayName.1).encode = some displayName.1) ∧
    (∀ (c : TcpClient) (frame : Bytes), (c.processServerMsgMsg frame).2 = .proceed →
      ∃ displayName content, IsDisplayName displayName ∧ IsContent content ∧
        Spells (TextMsg.msg displayName content).tokens frame ∧
        c.processServerMsgMsg frame = (c.emit (.output (.incomingMsg displayName content)), .proceed)) ∧
    (∀ (c : TcpClient) (frame : Bytes), (c.processServerErrMsg frame).2 = .proceed →
      ∃ displayName content, IsDisplayName displayName ∧ IsContent content ∧
        Spells (TextMsg.err displayName content).tokens frame ∧
        c.processServerErrMsg frame =
          (c.emit (.output (.errFromServer displayName content)), .proceed)) ∧
    (∀ (c : TcpClient) (frame : Bytes), (c.processServerByeMsg frame).2 = .proceed →
      ∃ displayName, IsDisplayName displayName ∧ matchByeMsgRegex frame = some displayName ∧
        Spells (TextMsg.bye displayName).tokens frame ∧ c.processServerByeMsg frame = (c, .proceed)) ∧
    (∀ (c : TcpClient) (frame : Bytes), (c.processServerReplyMsg frame).2 = .proceed →
      ∃ isPositive content, IsContent content ∧ Spells (TextMsg.reply isPositive content).tokens frame ∧
        (c.processServerReplyMsg frame).1.log =
          c.log ++ [.output (.incomingReply isPositive content)]) :=
  ⟨TcpClient.buildAuthMsg_encode, TcpClient.buildJoinMsg_encode, TcpClient.buildMsgMsg_encode,
    TcpClient.buildErrMsg_encode, TcpClient.buildByeMsg_encode,
    TcpClient.processServerMsgMsg_encode, TcpClient.processServerErrMsg_encode,
    TcpClient.processServerByeMsg_encode, fun c _ => c.processServerMsgMsg_proceed,
    fun c _ => c.processServerErrMsg_proceed, fun c _ => c.processServerByeMsg_proceed,
    fun c _ => c.processServerReplyMsg_proceed⟩

/-- The content may hold `" IS "`: the display name cannot hold a space. -/
example : matchMsgMsgRegex (ascii "MSG FROM bob IS a IS b\r\n") = some (ascii "bob", ascii "a IS b") := by
  decide

end IpkChat.Tcp
