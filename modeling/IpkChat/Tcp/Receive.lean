import IpkChat.Tcp.Session

namespace IpkChat.Tcp

/-! What `processSocketEvent` does with one well-formed message received alone, by phase. -/

/-! Framing and typing of one line. -/

theorem segments_cons_of_ne {b : UInt8} (hb : b ≠ 13) (s : Bytes) :
    segments (b :: s) = consFront b (segments s) := by
  rcases s with _ | ⟨x, s⟩
  · rfl
  · rw [segments_cons_cons, if_neg (fun h => hb h.1)]

/-- A line whose body holds no `\r` is one segment, with nothing left over. -/
theorem segments_line {body : Bytes} (hbody : ∀ x ∈ body, x ≠ 13) :
    segments (body ++ sEndOfMessage) = ([body ++ sEndOfMessage], []) := by
  induction body with
  | nil => rfl
  | cons b body ih =>
      rw [List.cons_append, segments_cons_of_ne (hbody b (List.mem_cons_self _ _)),
        ih fun x hx => hbody x (List.mem_cons_of_mem _ hx)]
      rfl

/-- The type is read from the first five bytes, so a keyword of five bytes or
more decides it. -/
theorem getServerMsgType_keyword {keyword : Bytes} (h5 : 5 ≤ keyword.length) (rest : Bytes) :
    getServerMsgType (keyword ++ rest) = getServerMsgType keyword := by
  have h3 : 3 ≤ (keyword ++ rest).length := by simp only [List.length_append]; omega
  unfold getServerMsgType
  rw [if_pos h3, if_pos (show 3 ≤ keyword.length by omega),
    List.take_append_of_le_length (by rw [length_reply]; exact h5)]

theorem IsDisplayName.ne_cr {displayName : Bytes} (h : IsDisplayName displayName) :
    ∀ x ∈ displayName, x ≠ 13 := by
  rintro x hx rfl
  exact absurd (h.2 13 hx) (by decide)

theorem IsContent.ne_cr {content : Bytes} (h : IsContent content) : ∀ x ∈ content, x ≠ 13 := by
  rintro x hx rfl
  exact absurd (h.2 13 hx) (by decide)

/-- No byte of `a ++ b` is `\r` when none of `a` and none of `b` is. -/
theorem ne_cr_append {a b : Bytes} (ha : ∀ x ∈ a, x ≠ 13) (hb : ∀ x ∈ b, x ≠ 13) :
    ∀ x ∈ a ++ b, x ≠ 13 := by
  intro x hx
  rcases List.mem_append.mp hx with hx | hx
  · exact ha x hx
  · exact hb x hx

namespace TcpClient

theorem andThen_proceed_right (result : TcpClient × Verdict) :
    andThen result (fun c => (c, .proceed)) = result := by
  obtain ⟨c, _ | _ | _ | _⟩ := result <;> rfl

/-- A line that arrives alone in an empty buffer is processed as one frame, as
its own buffer, and leaves the buffer empty when the loop goes on. -/
theorem processSocketEvent_line (c : TcpClient) {body : Bytes} (hbody : ∀ x ∈ body, x ≠ 13)
    (hlength : (body ++ sEndOfMessage).length ≤ sMaxMsgSize) :
    ((c.processSocketEvent [] (body ++ sEndOfMessage)).1,
        (c.processSocketEvent [] (body ++ sEndOfMessage)).2.2) =
      c.processMessageFromServer (body ++ sEndOfMessage) (body ++ sEndOfMessage) ∧
    ((c.processSocketEvent [] (body ++ sEndOfMessage)).2.2 = .proceed →
      (c.processSocketEvent [] (body ++ sEndOfMessage)).2.1 = []) := by
  have hne : body ++ sEndOfMessage ≠ [] := by simp [sEndOfMessage_eq]
  obtain ⟨hdispatch, hbuffer⟩ := c.processFrames_dispatchStream ([] ++ (body ++ sEndOfMessage))
  rw [← processSocketEvent_of_ne_nil c [] hne] at hdispatch hbuffer
  refine ⟨?_, fun h => (hbuffer h).trans (by rw [List.nil_append, segments_line hbody])⟩
  rw [hdispatch, dispatchStream, List.nil_append, segments_line hbody]
  simp only [dispatchSegments, if_neg (Nat.not_lt.mpr hlength), andThen_proceed_right]
  rcases c.processMessageFromServer (body ++ sEndOfMessage) (body ++ sEndOfMessage) with
    ⟨c', _ | _ | _ | _⟩ <;> rfl

/-- A REPLY the client waits for in `S_AUTH` or `S_JOIN`: the timer is
stopped, the reply shown, stdin registered again, and `S_JOIN`, or `S_AUTH`
on a positive result, left for `S_OPEN`. -/
theorem processServerReplyMsg_accepted {c : TcpClient}
    (hstate : c.currentState = .sAuth ∨ c.currentState = .sJoin) (hwaiting : c.isWaitingForReply = true)
    (isPositive : Bool) (content : Content) :
    c.processServerReplyMsg (TextMsg.reply isPositive content.1).encode =
      ({ c with
          currentState := if c.currentState = .sJoin ∨ isPositive = true then .sOpen else c.currentState
          isWaitingForReply := false
          timer := none
          stdinRegistered := true
          log := c.log ++ [.output (.incomingReply isPositive content.1)] }, .proceed) := by
  rw [processServerReplyMsg_of_match hstate hwaiting (matchReplyMsgRegex_fields isPositive content.2)
    content.2.1, eqIgnoreCase_ok]

end TcpClient

/-! The encoded messages as lines. -/

theorem TextMsg.encode_msg_line (displayName content : Bytes) :
    (TextMsg.msg displayName content).encode =
      (ascii "MSG FROM " ++ (displayName ++ (ascii " IS " ++ content))) ++ sEndOfMessage := by
  simp only [TextMsg.encode_msg, List.append_assoc]

theorem TextMsg.encode_err_line (displayName content : Bytes) :
    (TextMsg.err displayName content).encode =
      (ascii "ERR FROM " ++ (displayName ++ (ascii " IS " ++ content))) ++ sEndOfMessage := by
  simp only [TextMsg.encode_err, List.append_assoc]

theorem TextMsg.encode_bye_line (displayName : Bytes) :
    (TextMsg.bye displayName).encode = (ascii "BYE FROM " ++ displayName) ++ sEndOfMessage := by
  simp only [TextMsg.encode_bye, List.append_assoc]

theorem TextMsg.encode_reply_line (isPositive : Bool) (content : Bytes) :
    (TextMsg.reply isPositive content).encode =
      (ascii "REPLY " ++ (ascii (if isPositive then "OK" else "NOK") ++ (ascii " IS " ++ content))) ++
        sEndOfMessage := by
  simp only [TextMsg.encode_reply, List.append_assoc]

theorem getServerMsgType_encode_msg (displayName content : Bytes) :
    getServerMsgType (TextMsg.msg displayName content).encode = .mMsg := by
  rw [TextMsg.encode_msg_line, List.append_assoc, getServerMsgType_keyword (by decide)]
  decide

theorem getServerMsgType_encode_err (displayName content : Bytes) :
    getServerMsgType (TextMsg.err displayName content).encode = .mErr := by
  rw [TextMsg.encode_err_line, List.append_assoc, getServerMsgType_keyword (by decide)]
  decide

theorem getServerMsgType_encode_bye (displayName : Bytes) :
    getServerMsgType (TextMsg.bye displayName).encode = .mBye := by
  rw [TextMsg.encode_bye_line, List.append_assoc, getServerMsgType_keyword (by decide)]
  decide

theorem getServerMsgType_encode_reply (isPositive : Bool) (content : Bytes) :
    getServerMsgType (TextMsg.reply isPositive content).encode = .mReply := by
  rw [TextMsg.encode_reply_line, List.append_assoc, getServerMsgType_keyword (by decide)]
  decide

theorem bye_line {displayName : Bytes} (hdisplayName : IsDisplayName displayName) :
    (∀ x ∈ ascii "BYE FROM " ++ displayName, x ≠ 13) ∧
      (ascii "BYE FROM " ++ displayName ++ sEndOfMessage).length ≤ sMaxMsgSize := by
  refine ⟨ne_cr_append (by decide) (IsDisplayName.ne_cr hdisplayName), ?_⟩
  have hkeyword : (ascii "BYE FROM ").length = 9 := rfl
  simp only [List.length_append, hkeyword, sEndOfMessage_eq, sMaxMsgSize_eq, List.length_cons,
    List.length_nil]
  have := hdisplayName.length_le.2
  omega

theorem reply_line (isPositive : Bool) {content : Bytes} (hcontent : IsContent content) :
    (∀ x ∈ ascii "REPLY " ++ (ascii (if isPositive then "OK" else "NOK") ++ (ascii " IS " ++ content)),
        x ≠ 13) ∧
      (ascii "REPLY " ++ (ascii (if isPositive then "OK" else "NOK") ++ (ascii " IS " ++ content)) ++
        sEndOfMessage).length ≤ sMaxMsgSize := by
  have hresult : (ascii (if isPositive then "OK" else "NOK")).length ≤ 3 ∧
      ∀ x ∈ ascii (if isPositive then "OK" else "NOK"), x ≠ 13 := by
    cases isPositive <;> decide
  refine ⟨ne_cr_append (by decide) (ne_cr_append hresult.2
    (ne_cr_append (by decide) (IsContent.ne_cr hcontent))), ?_⟩
  have hkeyword : (ascii "REPLY ").length = 6 := rfl
  have hIS : (ascii " IS ").length = 4 := rfl
  simp only [List.length_append, hkeyword, hIS, sEndOfMessage_eq, sMaxMsgSize_eq, List.length_cons,
    List.length_nil]
  have := hcontent.length_le.2
  omega

/-- A MSG or an ERR of well-formed fields is one line without `\r` before its
end, of at most `s_MAX_MSG_SIZE` bytes: the longest, 20 bytes of display name
and 60000 of content, has exactly that many. -/
theorem fromIs_line (keyword : Bytes) {displayName content : Bytes} (hkeyword : ∀ x ∈ keyword, x ≠ 13)
    (hlength : keyword.length = 9) (hdisplayName : IsDisplayName displayName)
    (hcontent : IsContent content) :
    (∀ x ∈ keyword ++ (displayName ++ (ascii " IS " ++ content)), x ≠ 13) ∧
      (keyword ++ (displayName ++ (ascii " IS " ++ content)) ++ sEndOfMessage).length ≤ sMaxMsgSize := by
  refine ⟨ne_cr_append hkeyword (ne_cr_append (IsDisplayName.ne_cr hdisplayName)
    (ne_cr_append (by decide) (IsContent.ne_cr hcontent))), ?_⟩
  have hIS : (ascii " IS ").length = 4 := rfl
  simp only [List.length_append, hlength, hIS, sEndOfMessage_eq, sMaxMsgSize_eq, List.length_cons,
    List.length_nil]
  have := hdisplayName.length_le.2
  have := hcontent.length_le.2
  omega

/-- Every frame that the decoder of its type accepts passes the size filter of
`processSocketEvent`: the MSG and the ERR of the longest fields fill
`s_MAX_MSG_SIZE` exactly, a BYE and a REPLY stay below it. -/
theorem accepted_frame_fits (c : TcpClient) (frame : Bytes)
    (haccepted : (c.processServerMsgMsg frame).2 = .proceed ∨
      (c.processServerErrMsg frame).2 = .proceed ∨ (c.processServerByeMsg frame).2 = .proceed ∨
      (c.processServerReplyMsg frame).2 = .proceed) :
    frame.length ≤ sMaxMsgSize := by
  rcases haccepted with hmsg | herr | hbye | hreply
  · obtain ⟨displayName, content, hdisplayName, hcontent, hspells, -⟩ :=
      c.processServerMsgMsg_proceed hmsg
    rw [hspells.length_eq_encode, TextMsg.encode_msg_line]
    exact (fromIs_line (ascii "MSG FROM ") (by decide) rfl hdisplayName hcontent).2
  · obtain ⟨displayName, content, hdisplayName, hcontent, hspells, -⟩ :=
      c.processServerErrMsg_proceed herr
    rw [hspells.length_eq_encode, TextMsg.encode_err_line]
    exact (fromIs_line (ascii "ERR FROM ") (by decide) rfl hdisplayName hcontent).2
  · obtain ⟨displayName, hdisplayName, -, hspells, -⟩ := c.processServerByeMsg_proceed hbye
    rw [hspells.length_eq_encode, TextMsg.encode_bye_line]
    exact (bye_line hdisplayName).2
  · obtain ⟨isPositive, content, hcontent, hspells, -⟩ := c.processServerReplyMsg_proceed hreply
    rw [hspells.length_eq_encode, TextMsg.encode_reply_line]
    exact (reply_line isPositive hcontent).2

/-- `BYE FROM Bob`, which every client accepts, fits. -/
theorem accepted_frame_fits_bye :
    ((TcpClient.init tcpArgs).processServerByeMsg (TextMsg.bye (ascii "Bob")).encode).2 = .proceed ∧
      (TextMsg.bye (ascii "Bob")).encode.length ≤ sMaxMsgSize :=
  ⟨by decide, accepted_frame_fits (TcpClient.init tcpArgs) _ (.inr (.inr (.inl (by decide))))⟩

namespace TcpClient

/-- One wake on a line that arrives alone in an empty buffer ends as the
frame's handler does, with the buffer empty when the loop goes on. -/
theorem step_received_line {c : TcpClient} {line body : Bytes}
    (hline : line = body ++ sEndOfMessage) (hbody : ∀ x ∈ body, x ≠ 13)
    (hlength : (body ++ sEndOfMessage).length ≤ sMaxMsgSize) :
    (step (c, []) (.received line)).1.1 = (c.processMessageFromServer line line).1 ∧
      (step (c, []) (.received line)).2 = (c.processMessageFromServer line line).2 ∧
      ((c.processMessageFromServer line line).2 = .proceed → (step (c, []) (.received line)).1.2 = []) := by
  subst hline
  obtain ⟨hframe, hbuffer⟩ := c.processSocketEvent_line hbody hlength
  rw [Prod.ext_iff] at hframe
  exact ⟨hframe.1, hframe.2, fun hproceed => hbuffer (hframe.2.trans hproceed)⟩

/-! What `processMessageFromServer` does with each message, by phase. -/

variable (c : TcpClient)

theorem processMessageFromServer_encode_msg (displayName : DisplayName) (content : Content) :
    ((c.currentState = .sOpen ∨ c.currentState = .sJoin) →
      c.processMessageFromServer (TextMsg.msg displayName.1 content.1).encode
          (TextMsg.msg displayName.1 content.1).encode =
        (c.emit (.output (.incomingMsg displayName.1 content.1)), .proceed)) ∧
    ((c.currentState = .sStart ∨ c.currentState = .sAuth) → ∃ msg,
      (c.processMessageFromServer (TextMsg.msg displayName.1 content.1).encode
        (TextMsg.msg displayName.1 content.1).encode).2 = .raise msg) := by
  simp only [processMessageFromServer, getServerMsgType_encode_msg, reduceCtorEq, ↓reduceIte]
  refine ⟨fun hphase => ?_, fun hphase => ?_⟩ <;> rcases hphase with hstate | hstate <;>
    simp only [hstate]
  all_goals first | exact processServerMsgMsg_encode c displayName content | exact ⟨_, rfl⟩

theorem processMessageFromServer_encode_err (displayName : DisplayName) (content : Content) :
    c.processMessageFromServer (TextMsg.err displayName.1 content.1).encode
        (TextMsg.err displayName.1 content.1).encode =
      (c.emit (.output (.errFromServer displayName.1 content.1)), .exitFailure) := by
  simp only [processMessageFromServer, getServerMsgType_encode_err, reduceCtorEq, ↓reduceIte,
    processServerErrMsg_encode c displayName content]

theorem processMessageFromServer_encode_bye (displayName : DisplayName) :
    c.processMessageFromServer (TextMsg.bye displayName.1).encode (TextMsg.bye displayName.1).encode =
      (c, .exitSuccess) := by
  simp only [processMessageFromServer, getServerMsgType_encode_bye, reduceCtorEq, ↓reduceIte,
    (processServerByeMsg_encode c displayName).1]

theorem processMessageFromServer_encode_reply (isPositive : Bool) (content : Content) :
    ((c.currentState = .sAuth ∨ c.currentState = .sJoin) →
      c.processMessageFromServer (TextMsg.reply isPositive content.1).encode
          (TextMsg.reply isPositive content.1).encode =
        c.processServerReplyMsg (TextMsg.reply isPositive content.1).encode) ∧
    (c.isWaitingForReply = false → ∃ msg,
      (c.processMessageFromServer (TextMsg.reply isPositive content.1).encode
        (TextMsg.reply isPositive content.1).encode).2 = .raise msg) := by
  simp only [processMessageFromServer, getServerMsgType_encode_reply, reduceCtorEq, ↓reduceIte]
  refine ⟨fun hphase => ?_, fun hwaiting => ?_⟩
  · rcases hphase with hstate | hstate <;> simp only [hstate]
  · cases c.currentState
    all_goals first
      | exact ⟨_, rfl⟩
      | exact processServerReplyMsg_raise_of_not_waiting hwaiting _

end TcpClient

/-- One well-formed message received alone from a reachable state with an empty
buffer: a MSG is shown in `S_OPEN` and `S_JOIN`, an ERR or a BYE ends the session,
a REPLY is taken exactly while one is awaited, and the buffer stays empty. -/
theorem receive_table {args : Args} {s : TcpClient × Bytes} (h : Reachable args s)
    (hbuffer : s.2 = []) :
    (∀ (displayName : DisplayName) (content : Content),
      ((s.1.currentState = .sOpen ∨ s.1.currentState = .sJoin) →
        step s (.received (TextMsg.msg displayName.1 content.1).encode) =
          ((s.1.emit (.output (.incomingMsg displayName.1 content.1)), []), .proceed)) ∧
      ((s.1.currentState = .sStart ∨ s.1.currentState = .sAuth) → ∃ msg,
        (step s (.received (TextMsg.msg displayName.1 content.1).encode)).2 = .raise msg)) ∧
    (∀ (displayName : DisplayName) (content : Content),
      (step s (.received (TextMsg.err displayName.1 content.1).encode)).1.1 =
          s.1.emit (.output (.errFromServer displayName.1 content.1)) ∧
        (step s (.received (TextMsg.err displayName.1 content.1).encode)).2 = .exitFailure) ∧
    (∀ displayName : DisplayName,
      (step s (.received (TextMsg.bye displayName.1).encode)).1.1 = s.1 ∧
        (step s (.received (TextMsg.bye displayName.1).encode)).2 = .exitSuccess) ∧
    ∀ (isPositive : Bool) (content : Content),
      (s.1.isWaitingForReply = true →
        step s (.received (TextMsg.reply isPositive content.1).encode) =
          (({ s.1 with
              currentState :=
                if s.1.currentState = .sJoin ∨ isPositive = true then .sOpen else .sAuth
              isWaitingForReply := false
              timer := none
              stdinRegistered := true
              log := s.1.log ++ [.output (.incomingReply isPositive content.1)] }, []), .proceed)) ∧
      (s.1.isWaitingForReply = false → ∃ msg,
        (step s (.received (TextMsg.reply isPositive content.1).encode)).2 = .raise msg) := by
  have hinv := h.sessionInvariant.waitConsistent
  obtain ⟨c, buffer⟩ := s
  obtain rfl : buffer = [] := hbuffer
  refine ⟨fun displayName content => ?_, fun displayName content => ?_, fun displayName => ?_,
    fun isPositive content => ?_⟩
  · have hline := TextMsg.encode_msg_line displayName.1 content.1
    obtain ⟨hbody, hlength⟩ := fromIs_line (ascii "MSG FROM ") (by decide) rfl displayName.2 content.2
    obtain ⟨hclient, hverdict, hempty⟩ := TcpClient.step_received_line (c := c) hline hbody hlength
    obtain ⟨haccept, hreject⟩ := c.processMessageFromServer_encode_msg displayName content
    refine ⟨fun hphase => ?_, fun hphase => ?_⟩
    · rw [haccept hphase] at hclient hverdict hempty
      exact Prod.ext (Prod.ext hclient (hempty rfl)) hverdict
    · obtain ⟨msg, hmsg⟩ := hreject hphase
      exact ⟨msg, hverdict.trans hmsg⟩
  · have hline := TextMsg.encode_err_line displayName.1 content.1
    obtain ⟨hbody, hlength⟩ := fromIs_line (ascii "ERR FROM ") (by decide) rfl displayName.2 content.2
    obtain ⟨hclient, hverdict, -⟩ := TcpClient.step_received_line (c := c) hline hbody hlength
    rw [c.processMessageFromServer_encode_err displayName content] at hclient hverdict
    exact ⟨hclient, hverdict⟩
  · have hline := TextMsg.encode_bye_line displayName.1
    obtain ⟨hbody, hlength⟩ := bye_line displayName.2
    obtain ⟨hclient, hverdict, -⟩ := TcpClient.step_received_line (c := c) hline hbody hlength
    rw [c.processMessageFromServer_encode_bye displayName] at hclient hverdict
    exact ⟨hclient, hverdict⟩
  · have hline := TextMsg.encode_reply_line isPositive content.1
    obtain ⟨hbody, hlength⟩ := reply_line isPositive content.2
    obtain ⟨hclient, hverdict, hempty⟩ := TcpClient.step_received_line (c := c) hline hbody hlength
    obtain ⟨hdispatch, hreject⟩ := c.processMessageFromServer_encode_reply isPositive content
    refine ⟨fun hwaiting => ?_, fun hwaiting => ?_⟩
    · have hphase : c.currentState = .sAuth ∨ c.currentState = .sJoin := hinv.phase_of_waiting hwaiting
      have hnext : (if c.currentState = .sJoin ∨ isPositive = true then FsmState.sOpen
          else c.currentState) = if c.currentState = .sJoin ∨ isPositive = true then .sOpen else .sAuth := by
        rcases hphase with hstate | hstate <;> simp [hstate]
      rw [hdispatch hphase, TcpClient.processServerReplyMsg_accepted hphase hwaiting isPositive content,
        hnext] at hclient hverdict hempty
      exact Prod.ext (Prod.ext hclient (hempty rfl)) hverdict
    · obtain ⟨msg, hmsg⟩ := hreject hwaiting
      exact ⟨msg, hverdict.trans hmsg⟩

/-- `REPLY OK IS Authenticated.` right after `/auth`: the session is in
`S_OPEN`. -/
theorem receive_table_auth_reply :
    (step authScenario (.received (TextMsg.reply true (ascii "Authenticated.")).encode)).1.1.currentState =
      .sOpen := by
  have hreach : Reachable tcpArgs authScenario := .step .init (by decide) (by decide)
  rw [((receive_table hreach rfl).2.2.2 true ⟨ascii "Authenticated.", by decide, by decide⟩).1
    (by decide)]
  decide

end IpkChat.Tcp
